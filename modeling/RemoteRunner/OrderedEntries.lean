/-
Association lists and the ordered map they collect into.  A later entry for a
key overwrites an earlier one, as collecting an iterator into an ordered map
does, so the collected list is determined by the last value of every key.
-/
import Mathlib.Data.List.Basic
import Mathlib.Data.List.Nodup
import Mathlib.Data.List.Induction
import Mathlib.Order.Lattice

namespace RemoteRunner

universe u v w

variable {K : Type u} {V : Type v} {W : Type w}

namespace OrderedEntries

/-- All values listed for one key, in list order. -/
def occurrences [DecidableEq K] (key : K) : List (K × V) → List V
  | [] => []
  | (k, v) :: rest =>
      if k = key then v :: occurrences key rest else occurrences key rest

theorem occurrences_append [DecidableEq K] (key : K)
    (first second : List (K × V)) :
    occurrences key (first ++ second) =
      occurrences key first ++ occurrences key second := by
  induction first with
  | nil => rfl
  | cons head tail ih =>
      by_cases hkey : head.1 = key <;> simp [occurrences, hkey, ih]

theorem mem_occurrences_iff [DecidableEq K] {key : K} {value : V}
    {entries : List (K × V)} :
    value ∈ occurrences key entries ↔ (key, value) ∈ entries := by
  induction entries with
  | nil => simp [occurrences]
  | cons head tail ih =>
      obtain ⟨k, v⟩ := head
      by_cases hkey : k = key
      · subst hkey
        simp [occurrences, ih]
      · have hne : key ≠ k := fun h => hkey h.symm
        simp [occurrences, hkey, hne, ih]

theorem occurrences_eq_nil_iff [DecidableEq K] {key : K}
    {entries : List (K × V)} :
    occurrences key entries = [] ↔ key ∉ entries.map Prod.fst := by
  induction entries with
  | nil => simp [occurrences]
  | cons head tail ih =>
      by_cases hkey : head.1 = key
      · simp [occurrences, hkey]
      · have hne : key ≠ head.1 := fun h => hkey h.symm
        simp [occurrences, hkey, hne, ih]

/-- The last value of a key is the one no later entry overwrites. -/
theorem getLast?_occurrences_eq_some_iff [DecidableEq K] {key : K} {value : V}
    {entries : List (K × V)} :
    (occurrences key entries).getLast? = some value ↔
      ∃ before after, entries = before ++ (key, value) :: after ∧
        key ∉ after.map Prod.fst := by
  constructor
  · intro h
    induction entries with
    | nil => simp [occurrences] at h
    | cons head tail ih =>
        obtain ⟨k, v⟩ := head
        by_cases htail : key ∈ tail.map Prod.fst
        · have hne : occurrences key tail ≠ [] :=
            fun hnil => occurrences_eq_nil_iff.mp hnil htail
          have hlast : (occurrences key tail).getLast? = some value := by
            by_cases hkey : k = key
            · rwa [occurrences, if_pos hkey, List.getLast?_cons_of_ne_nil hne] at h
            · rwa [occurrences, if_neg hkey] at h
          obtain ⟨before, after, rfl, hafter⟩ := ih hlast
          exact ⟨(k, v) :: before, after, rfl, hafter⟩
        · have hnil : occurrences key tail = [] := occurrences_eq_nil_iff.mpr htail
          by_cases hkey : k = key
          · subst hkey
            simp only [occurrences, ↓reduceIte, hnil, List.getLast?_singleton,
              Option.some.injEq] at h
            exact ⟨[], tail, by rw [h, List.nil_append], htail⟩
          · simp [occurrences, hkey, hnil] at h
  · intro h
    obtain ⟨before, after, rfl, hafter⟩ := h
    rw [occurrences_append, occurrences, if_pos rfl,
      occurrences_eq_nil_iff.mpr hafter]
    simp

theorem occurrences_map_entry [DecidableEq K] (f : K → V → W) (key : K)
    (entries : List (K × V)) :
    occurrences key (entries.map fun entry => (entry.1, f entry.1 entry.2)) =
      (occurrences key entries).map (f key) := by
  induction entries with
  | nil => rfl
  | cons head tail ih =>
      by_cases hkey : head.1 = key
      · subst hkey
        simp [occurrences, ih]
      · simp [occurrences, hkey, ih]

theorem occurrences_map_value [DecidableEq K] (f : V → W) (key : K)
    (entries : List (K × V)) :
    occurrences key (entries.map fun entry => (entry.1, f entry.2)) =
      (occurrences key entries).map f := by
  induction entries with
  | nil => rfl
  | cons head tail ih =>
      by_cases hkey : head.1 = key <;> simp [occurrences, hkey, ih]

/-- Keeping the entries of some keys keeps what those keys list. -/
theorem occurrences_filter [DecidableEq K] (keep : K → Prop) [DecidablePred keep]
    (key : K) (entries : List (K × V)) :
    occurrences key (entries.filter fun entry => keep entry.1) =
      if keep key then occurrences key entries else [] := by
  induction entries with
  | nil => simp [occurrences]
  | cons head tail ih =>
      by_cases hkeep : keep head.1
      · by_cases hkey : head.1 = key
        · subst hkey
          simpa [occurrences, hkeep] using ih
        · simpa [occurrences, hkeep, hkey] using ih
      · have hkey : keep key → head.1 ≠ key :=
          fun hkeyKept heq => hkeep (heq ▸ hkeyKept)
        by_cases hkeyKept : keep key
        · simpa [occurrences, hkeep, hkeyKept, hkey hkeyKept] using ih
        · simpa [hkeep, hkeyKept] using ih

theorem occurrences_perm [DecidableEq K] (key : K)
    {first second : List (K × V)} (hperm : first.Perm second) :
    (occurrences key first).Perm (occurrences key second) := by
  induction hperm with
  | nil => exact List.Perm.refl _
  | cons head _ ih =>
      by_cases hkey : head.1 = key <;> simp [occurrences, hkey, ih]
  | swap left right tail =>
      by_cases hleft : left.1 = key <;> by_cases hright : right.1 = key <;>
        simp [occurrences, hleft, hright, List.Perm.swap]
  | trans _ _ ihFirst ihSecond => exact ihFirst.trans ihSecond

/-- With distinct keys every key is listed at most once. -/
theorem occurrences_length_le_one [DecidableEq K] {entries : List (K × V)}
    (hnodup : (entries.map Prod.fst).Nodup) (key : K) :
    (occurrences key entries).length ≤ 1 := by
  induction entries with
  | nil => simp [occurrences]
  | cons head tail ih =>
      simp only [List.map_cons, List.nodup_cons] at hnodup
      by_cases hkey : head.1 = key
      · have hnil : occurrences key tail = [] :=
          occurrences_eq_nil_iff.mpr (hkey ▸ hnodup.1)
        simp [occurrences, hkey, hnil]
      · simpa [occurrences, hkey] using ih hnodup.2

/-- Distinct keys make the occurrences independent of the entry order. -/
theorem occurrences_eq_of_perm [DecidableEq K] {first second : List (K × V)}
    (hnodup : (first.map Prod.fst).Nodup) (hperm : first.Perm second)
    (key : K) : occurrences key first = occurrences key second := by
  have hoccurrences := occurrences_perm key hperm
  have hlength := occurrences_length_le_one hnodup key
  match hfirst : occurrences key first with
  | [] =>
      rw [hfirst] at hoccurrences
      exact hoccurrences.nil_eq
  | [value] =>
      rw [hfirst] at hoccurrences
      exact List.singleton_perm.mp hoccurrences
  | _ :: _ :: _ => simp [hfirst] at hlength

section Collect

variable [LinearOrder K]

/-- Insert one entry into an ascending list, overwriting an equal key. -/
def insertEntry (key : K) (value : V) : List (K × V) → List (K × V)
  | [] => [(key, value)]
  | (k, v) :: rest =>
      if key < k then (key, value) :: (k, v) :: rest
      else if key = k then (key, value) :: rest
      else (k, v) :: insertEntry key value rest

/-- Collect an iterator of entries into an ordered map, read off in key
order. -/
def collect (entries : List (K × V)) : List (K × V) :=
  entries.foldl (fun map entry => insertEntry entry.1 entry.2 map) []

def Ascending (entries : List (K × V)) : Prop :=
  (entries.map Prod.fst).Pairwise (· < ·)

theorem Ascending.nodup {entries : List (K × V)} (h : Ascending entries) :
    (entries.map Prod.fst).Nodup :=
  h.imp fun hlt => ne_of_lt hlt

theorem mem_keys_insertEntry {key k : K} {value : V}
    {entries : List (K × V)} :
    k ∈ (insertEntry key value entries).map Prod.fst ↔
      k = key ∨ k ∈ entries.map Prod.fst := by
  induction entries with
  | nil => simp [insertEntry]
  | cons head tail ih =>
      obtain ⟨headKey, headValue⟩ := head
      by_cases hlt : key < headKey
      · simp [insertEntry, hlt]
      · by_cases heq : key = headKey
        · subst heq
          simp [insertEntry]
        · simp only [insertEntry, hlt, heq, ↓reduceIte, List.map_cons,
            List.mem_cons, ih]
          tauto

theorem insertEntry_ascending (key : K) (value : V) {entries : List (K × V)}
    (h : Ascending entries) : Ascending (insertEntry key value entries) := by
  induction entries with
  | nil => simp [insertEntry, Ascending]
  | cons head tail ih =>
      obtain ⟨headKey, headValue⟩ := head
      simp only [Ascending, List.map_cons, List.pairwise_cons] at h
      by_cases hlt : key < headKey
      · simp only [insertEntry, hlt, ↓reduceIte, Ascending, List.map_cons,
          List.pairwise_cons, List.mem_cons]
        refine ⟨?_, h⟩
        rintro k (rfl | hk)
        · exact hlt
        · exact hlt.trans (h.1 k hk)
      · by_cases heq : key = headKey
        · subst heq
          simpa [insertEntry, Ascending] using h
        · simp only [insertEntry, hlt, heq, ↓reduceIte, Ascending,
            List.map_cons, List.pairwise_cons]
          refine ⟨?_, ih h.2⟩
          intro k hk
          rcases mem_keys_insertEntry.mp hk with rfl | hk
          · exact lt_of_le_of_ne (not_lt.mp hlt) (Ne.symm heq)
          · exact h.1 k hk

theorem occurrences_insertEntry (key k : K) (value : V)
    {entries : List (K × V)} (h : Ascending entries) :
    occurrences k (insertEntry key value entries) =
      if k = key then [value] else occurrences k entries := by
  induction entries with
  | nil =>
      by_cases hk : k = key
      · simp [insertEntry, occurrences, hk]
      · simp [insertEntry, occurrences, hk, Ne.symm hk]
  | cons head tail ih =>
      obtain ⟨headKey, headValue⟩ := head
      simp only [Ascending, List.map_cons, List.pairwise_cons] at h
      have hnil : ∀ k' ≤ headKey, occurrences k' tail = [] := by
        intro k' hle
        apply occurrences_eq_nil_iff.mpr
        exact fun hmem => absurd (h.1 k' hmem) (not_lt.mpr hle)
      by_cases hlt : key < headKey
      · by_cases hk : k = key
        · subst hk
          simp [insertEntry, occurrences, hlt, hlt.ne', hnil k hlt.le]
        · simp [insertEntry, occurrences, hlt, hk, Ne.symm hk]
      · by_cases heq : key = headKey
        · subst heq
          by_cases hk : k = key
          · subst hk
            simp [insertEntry, occurrences, hnil k le_rfl]
          · simp [insertEntry, occurrences, hk, Ne.symm hk]
        · simp only [insertEntry, hlt, heq, ↓reduceIte, occurrences,
            ih h.2]
          by_cases hk : k = key
          · subst hk
            simp [Ne.symm heq]
          · simp [hk]

/-- Inserting trades the old value of a key for the new one. -/
theorem countP_insertEntry (p : V → Bool) (key : K) (value : V)
    {entries : List (K × V)} (h : Ascending entries) :
    (insertEntry key value entries).countP (p ·.2) + (occurrences key entries).countP p =
      entries.countP (p ·.2) + (p value).toNat := by
  induction entries with
  | nil => rcases hp : p value with _ | _ <;> simp [insertEntry, occurrences, hp]
  | cons head tail ih =>
      obtain ⟨headKey, headValue⟩ := head
      simp only [Ascending, List.map_cons, List.pairwise_cons] at h
      have hnil : ∀ k' ≤ headKey, occurrences k' tail = [] := by
        intro k' hle
        apply occurrences_eq_nil_iff.mpr
        exact fun hmem => absurd (h.1 k' hmem) (not_lt.mpr hle)
      by_cases hlt : key < headKey
      · rcases hp : p value with _ | _ <;>
          simp [insertEntry, occurrences, hlt, hlt.ne', hnil key hlt.le, hp]
      · by_cases heq : key = headKey
        · subst heq
          rcases hp : p value with _ | _ <;> rcases hold : p headValue with _ | _ <;>
            simp [insertEntry, occurrences, hnil key le_rfl, hp, hold]
        · have hrest := ih h.2
          simp only [insertEntry, hlt, heq, ↓reduceIte, occurrences, Ne.symm heq,
            List.countP_cons] at hrest ⊢
          omega

theorem collect_append_singleton (entries : List (K × V)) (entry : K × V) :
    collect (entries ++ [entry]) =
      insertEntry entry.1 entry.2 (collect entries) := by
  simp [collect]

theorem collect_ascending (entries : List (K × V)) :
    Ascending (collect entries) := by
  induction entries using List.reverseRecOn with
  | nil => simp [collect, Ascending]
  | append_singleton entries entry ih =>
      rw [collect_append_singleton]
      exact insertEntry_ascending entry.1 entry.2 ih

/-- The collected map holds the last value of every key and nothing else. -/
theorem occurrences_collect (key : K) (entries : List (K × V)) :
    occurrences key (collect entries) =
      (occurrences key entries).getLast?.toList := by
  induction entries using List.reverseRecOn with
  | nil => rfl
  | append_singleton entries entry ih =>
      rw [collect_append_singleton,
        occurrences_insertEntry _ _ _ (collect_ascending entries), ih,
        occurrences_append]
      by_cases hkey : key = entry.1
      · simp [occurrences, hkey]
      · simp [occurrences, hkey, Ne.symm hkey]

/-- Ascending lists are determined by their occurrences. -/
theorem Ascending.ext {first second : List (K × V)}
    (hfirst : Ascending first) (hsecond : Ascending second)
    (h : ∀ key, occurrences key first = occurrences key second) :
    first = second := by
  induction first generalizing second with
  | nil =>
      cases second with
      | nil => rfl
      | cons head tail =>
          have hhead := h head.1
          simp [occurrences] at hhead
  | cons head tail ih =>
      cases second with
      | nil =>
          have hhead := h head.1
          simp [occurrences] at hhead
      | cons head' tail' =>
          simp only [Ascending, List.map_cons, List.pairwise_cons]
            at hfirst hsecond
          have hmem : (head.1, head.2) ∈ head' :: tail' := by
            apply mem_occurrences_iff.mp
            rw [← h head.1]
            simp [occurrences]
          have hmem' : (head'.1, head'.2) ∈ head :: tail := by
            apply mem_occurrences_iff.mp
            rw [h head'.1]
            simp [occurrences]
          have heq : head = head' := by
            rcases List.mem_cons.mp hmem with heq | htail
            · exact heq
            · rcases List.mem_cons.mp hmem' with heq' | htail'
              · exact heq'.symm
              · exact absurd
                  (hfirst.1 _ (List.mem_map_of_mem (f := Prod.fst) htail'))
                  (not_lt.mpr (hsecond.1 _
                    (List.mem_map_of_mem (f := Prod.fst) htail)).le)
          subst heq
          congr 1
          apply ih hfirst.2 hsecond.2
          intro key
          have hkey := h key
          by_cases hhead : head.1 = key
          · simpa [occurrences, hhead] using hkey
          · simpa [occurrences, hhead] using hkey

theorem collect_eq_collect_iff {first second : List (K × V)} :
    collect first = collect second ↔
      ∀ key, (occurrences key first).getLast? =
        (occurrences key second).getLast? := by
  constructor
  · intro h key
    have hkey := congrArg (occurrences key) h
    rw [occurrences_collect, occurrences_collect] at hkey
    have hhead := congrArg List.head? hkey
    simpa [Option.head?_toList] using hhead
  · intro h
    apply (collect_ascending first).ext (collect_ascending second)
    intro key
    rw [occurrences_collect, occurrences_collect, h key]

theorem collect_eq_self {entries : List (K × V)} (h : Ascending entries) :
    collect entries = entries := by
  apply (collect_ascending entries).ext h
  intro key
  rw [occurrences_collect]
  have hlength := occurrences_length_le_one h.nodup key
  match hocc : occurrences key entries with
  | [] => rfl
  | [value] => rfl
  | _ :: _ :: _ => simp [hocc] at hlength

/-- Values may be changed before or after collecting. -/
theorem map_collect (f : K → V → W) (entries : List (K × V)) :
    (collect entries).map (fun entry => (entry.1, f entry.1 entry.2)) =
      collect (entries.map fun entry => (entry.1, f entry.1 entry.2)) := by
  have hascending : Ascending
      ((collect entries).map fun entry => (entry.1, f entry.1 entry.2)) := by
    rw [Ascending, List.map_map]
    exact collect_ascending entries
  apply hascending.ext (collect_ascending _)
  intro key
  rw [occurrences_map_entry, occurrences_collect, occurrences_collect,
    occurrences_map_entry, List.getLast?_map]
  rcases (occurrences key entries).getLast? with _ | value <;> rfl

theorem insertEntry_perm (key : K) (value : V) {entries : List (K × V)}
    (hnew : key ∉ entries.map Prod.fst) :
    (insertEntry key value entries).Perm ((key, value) :: entries) := by
  induction entries with
  | nil => exact List.Perm.refl _
  | cons head tail ih =>
      simp only [List.map_cons, List.mem_cons, not_or] at hnew
      by_cases hlt : key < head.1
      · simp [insertEntry, hlt]
      · simp only [insertEntry, hlt, hnew.1, ↓reduceIte]
        exact ((ih hnew.2).cons head).trans (List.Perm.swap _ _ _)

/-- Entries with distinct keys are only reordered by collecting. -/
theorem collect_perm {entries : List (K × V)}
    (hnodup : (entries.map Prod.fst).Nodup) :
    (collect entries).Perm entries := by
  induction entries using List.reverseRecOn with
  | nil => exact List.Perm.refl _
  | append_singleton entries entry ih =>
      simp only [List.map_append, List.map_cons, List.map_nil] at hnodup
      obtain ⟨hentries, _, hdisjoint⟩ := List.nodup_append.mp hnodup
      have hperm := ih hentries
      have hnew : entry.1 ∉ (collect entries).map Prod.fst := by
        intro hmem
        have hold := (hperm.map Prod.fst).mem_iff.mp hmem
        exact hdisjoint entry.1 hold entry.1 (by simp) rfl
      rw [collect_append_singleton]
      exact (insertEntry_perm entry.1 entry.2 hnew).trans
        ((hperm.cons entry).trans (List.perm_append_singleton entry entries).symm)

theorem mem_of_mem_collect {entries : List (K × V)} {entry : K × V}
    (h : entry ∈ collect entries) : entry ∈ entries := by
  have hocc : entry.2 ∈ occurrences entry.1 (collect entries) :=
    mem_occurrences_iff.mpr h
  rw [occurrences_collect, Option.mem_toList] at hocc
  exact mem_occurrences_iff.mp (List.mem_of_getLast? hocc)

end Collect

end OrderedEntries

open OrderedEntries

/-- A finite map, kept as its strictly ascending entry list. -/
structure OrderedMap (K : Type u) (V : Type v) [LinearOrder K] where
  entries : List (K × V)
  ascending : Ascending entries

namespace OrderedMap

variable [LinearOrder K]

instance [DecidableEq V] : DecidableEq (OrderedMap K V) := fun first second =>
  decidable_of_iff (first.entries = second.entries) (by
    cases first
    cases second
    simp)

/-- Collect entries, the last one of a key counting. -/
def ofEntries (entries : List (K × V)) : OrderedMap K V :=
  ⟨collect entries, collect_ascending entries⟩

def get? (map : OrderedMap K V) (key : K) : Option V :=
  (occurrences key map.entries).head?

def insert (map : OrderedMap K V) (key : K) (value : V) : OrderedMap K V :=
  ⟨insertEntry key value map.entries, insertEntry_ascending key value map.ascending⟩

theorem occurrences_entries (map : OrderedMap K V) (key : K) :
    occurrences key map.entries = (map.get? key).toList := by
  have hlength := occurrences_length_le_one map.ascending.nodup key
  rw [get?]
  match hocc : occurrences key map.entries with
  | [] => rfl
  | [value] => rfl
  | _ :: _ :: _ => simp [hocc] at hlength

/-- Maps that answer every lookup alike are equal. -/
theorem ext_get? {first second : OrderedMap K V}
    (h : ∀ key, first.get? key = second.get? key) : first = second := by
  have hentries : first.entries = second.entries := by
    apply first.ascending.ext second.ascending
    intro key
    rw [occurrences_entries, occurrences_entries, h key]
  cases first
  cases second
  simpa using hentries

@[simp] theorem get?_insert (map : OrderedMap K V) (key k : K) (value : V) :
    (map.insert key value).get? k = if k = key then some value else map.get? k := by
  rw [get?, insert, occurrences_insertEntry key k value map.ascending]
  by_cases hk : k = key <;> simp [hk, get?]

theorem get?_ofEntries (entries : List (K × V)) (key : K) :
    (ofEntries entries).get? key = (occurrences key entries).getLast? := by
  rw [get?, ofEntries, occurrences_collect, Option.head?_toList]

theorem insert_get?_self {map : OrderedMap K V} {key : K} {value : V}
    (h : map.get? key = some value) : map.insert key value = map := by
  apply ext_get?
  intro k
  by_cases hk : k = key <;> simp [hk, h]

/-- How many values satisfy a condition. -/
def count (map : OrderedMap K V) (p : V → Bool) : Nat := map.entries.countP (p ·.2)

theorem count_insert (map : OrderedMap K V) (p : V → Bool) (key : K) (value : V) :
    (map.insert key value).count p + (map.get? key).elim 0 (fun old => (p old).toNat) =
      map.count p + (p value).toNat := by
  have hcount := countP_insertEntry p key value map.ascending
  rw [occurrences_entries] at hcount
  rcases hold : map.get? key with _ | old
  · simpa [count, insert, hold] using hcount
  · rcases hp : p old with _ | _ <;> simpa [count, insert, hold, hp] using hcount

theorem count_le_count (map : OrderedMap K V) {p q : V → Bool}
    (h : ∀ value, p value = true → q value = true) : map.count p ≤ map.count q :=
  List.countP_mono_left fun entry _ => h entry.2

/-- Insert an entry when there is one. -/
def put (map : OrderedMap K V) : Option (K × V) → OrderedMap K V
  | none => map
  | some entry => map.insert entry.1 entry.2

theorem get?_put_of_ne {map : OrderedMap K V} {entry : Option (K × V)} {key : K}
    (h : ∀ written ∈ entry, written.1 ≠ key) : (map.put entry).get? key = map.get? key := by
  rcases entry with _ | written
  · rfl
  · have hne : key ≠ written.1 := (h written rfl).symm
    simp [put, hne]

/-- Entries that do not disagree on a key can be put in either order. -/
theorem put_comm (map : OrderedMap K V) {first second : Option (K × V)}
    (h : ∀ one ∈ first, ∀ other ∈ second, one.1 = other.1 → one.2 = other.2) :
    (map.put first).put second = (map.put second).put first := by
  rcases first with _ | one
  · rfl
  rcases second with _ | other
  · rfl
  apply ext_get?
  intro key
  simp only [put, get?_insert]
  by_cases hone : key = one.1
  · by_cases hother : key = other.1
    · have hvalue : one.2 = other.2 := h one rfl other rfl (hone.symm.trans hother)
      rw [if_pos hother, if_pos hone, hvalue]
    · rw [if_neg hother, if_pos hone, if_pos hone]
  · rw [if_neg hone, if_neg hone]

end OrderedMap

end RemoteRunner
