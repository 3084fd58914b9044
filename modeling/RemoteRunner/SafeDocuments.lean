/-
Documents without secret-shaped texts: the texts the code itself puts into its
reports are clean, so a report is as safe as what it takes over.
-/
import RemoteRunner.ReportDocuments
import RemoteRunner.SecretRedaction

namespace RemoteRunner

namespace Diagnostics

open Json JobIsolation

/-- None of the texts contains a secret-shaped substring. -/
def Clean (texts : List String) : Prop := ∀ text ∈ texts, ¬ContainsSecret text

theorem clean_nil : Clean [] := nofun

theorem clean_cons_iff {text : String} {texts : List String} :
    Clean (text :: texts) ↔ ¬ContainsSecret text ∧ Clean texts :=
  List.forall_mem_cons

theorem clean_append_iff {front back : List String} :
    Clean (front ++ back) ↔ Clean front ∧ Clean back :=
  List.forall_mem_append

theorem clean_flatMap_iff {α : Type} {values : List α} {texts : α → List String} :
    Clean (values.flatMap texts) ↔ ∀ value ∈ values, Clean (texts value) :=
  List.forall_mem_flatMap

theorem clean_toList_iff {text : Option String} :
    Clean text.toList ↔ ∀ inner ∈ text, ¬ContainsSecret inner := by
  simp [Clean]

/-- No text of the document contains a secret-shaped substring. -/
def Safe (document : Json) : Prop := Clean document.texts

theorem safe_string_iff {text : String} : Safe (.string text) ↔ ¬ContainsSecret text := by
  simp [Safe, Clean]

theorem safe_bool (value : Bool) : Safe (.bool value) := by
  simp [Safe, Clean]

theorem safe_ofUInt64 (value : UInt64) : Safe (ofUInt64 value) := by
  simp [Safe, Clean, ofUInt64]

theorem safe_ofInt64 (value : Int64) : Safe (ofInt64 value) := by
  rw [ofInt64]
  split <;> simp [Safe, Clean]

theorem safe_object_iff {members : List (String × Json)} :
    Safe (.object members) ↔
      ∀ member ∈ members, ¬ContainsSecret member.1 ∧ Safe member.2 := by
  simp only [Safe, texts_object, clean_flatMap_iff, clean_cons_iff]

theorem safe_map_iff {α : Type} {write : α → Json} {values : List α} :
    Safe (.array (values.map write)) ↔ ∀ value ∈ values, Safe (write value) := by
  simp only [Safe, texts_array, clean_flatMap_iff, List.forall_mem_map]

theorem safe_ofStrings_iff {texts : List String} :
    Safe (ofStrings texts) ↔ Clean texts := by
  simp only [ofStrings, safe_map_iff, safe_string_iff, Clean]

theorem safe_ofOption_iff {α : Type} {write : α → Json} {value : Option α} :
    Safe (ofOption write value) ↔ ∀ inner ∈ value, Safe (write inner) := by
  rcases value with _ | inner
  · simp [Safe, Clean, ofOption]
  · simp [ofOption]

theorem safe_sorted_iff {document : Json} (h : document.Distinct) :
    Safe document.sorted ↔ Safe document :=
  forall_congr' fun _ => imp_congr_left (mem_texts_sorted h)

/-- The members of the events that the diagnostics do not have. -/
def eventNames : List String :=
  ["display_name", "requested_working_groups", "registration_token_env",
    "clock_skew_ms", "adapter_id", "adapter_kind", "isolation_mode", "network_mode",
    "scoped_credential_refs", "audit_labels", "lease_id", "job_id", "accepted",
    "reason", "sequence", "phase", "percent", "stream", "redacted", "line",
    "path_label", "content_type", "size_bytes", "checksum_sha256", "retention_policy",
    "artifacts", "request_id", "correlation_id", "status", "duration_ms",
    "cpu_time_ms", "peak_memory_bytes", "prompt_tokens", "completion_tokens",
    "estimated_cost_micro_usd", "exit_code", "usage", "audit_metadata"]

/-- The texts the code puts into the reports by itself. -/
def fixedTexts : List String :=
  ["credential_ref", "[REDACTED:credential_ref]", "remote.v1alpha1",
    "runner_operator_diagnostics.v1", "remote_usage_report.v1", "0.1.0",
    "unregistered-local-runner", "unknown", "deny", "local_tool_execution",
    "local_llm_exposure", "external_agent_runtime_adapter", "computer_use_execution",
    "remote.local_tools.enabled", "remote.local_llm.enabled",
    "remote.external_agent_adapters.enabled", "remote.computer_use.enabled",
    "lease_fixture_001", "job_fixture_echo_001", "corr_fixture_echo_001",
    "policy_fixture_v1", "wg-dev", "temporary_isolated", "deny_all", "online", "running",
    "completed", "succeeded", "stdout", "hello from fixture", "echo",
    "echo adapter completed", "noop adapter completed without side effects",
    "stdout.txt", "text/plain", "placeholder-not-uploaded", "working_group_private",
    "08d9d37a1d9dbc2108aad0cecc04503b2a6bbd699a266f151f928988af025d5f"]

def vocabulary : List String := diagnosticsNames ++ eventNames ++ fixedTexts

theorem vocabulary_short_or_clean :
    ∀ text ∈ vocabulary,
      text.utf8ByteSize < MIN_SECRET_ALNUM_CHARS ∨ ¬ContainsSecret text := by
  decide +kernel

theorem vocabulary_clean : Clean vocabulary := by
  intro text htext
  rcases vocabulary_short_or_clean text htext with hshort | hclean
  · exact not_containsSecret_of_short hshort
  · exact hclean

end Diagnostics

end RemoteRunner
