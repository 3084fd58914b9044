/-
Compact JSON text: a writer without white space and a reader of what it
writes.  Reading what was written gives the document back, so distinct
documents have distinct texts.
-/
import Mathlib.Data.List.Basic
import RemoteRunner.JsonTree

namespace RemoteRunner

namespace CompactText

/-! ### Strings -/

/-- One character inside quotes. -/
def escape (c : Char) : List Char :=
  if c = '"' then ['\\', '"']
  else if c = '\\' then ['\\', '\\']
  else if c = '\x08' then ['\\', 'b']
  else if c = '\x0c' then ['\\', 'f']
  else if c = '\n' then ['\\', 'n']
  else if c = '\r' then ['\\', 'r']
  else if c = '\t' then ['\\', 't']
  else if c.toNat < 0x20 then
    ['\\', 'u', '0', '0', Nat.digitChar (c.toNat / 16), Nat.digitChar (c.toNat % 16)]
  else [c]

/-- The characters two-character escapes stand for. -/
def unescape (c : Char) : Option Char :=
  if c = '"' then some '"'
  else if c = '\\' then some '\\'
  else if c = 'b' then some '\x08'
  else if c = 'f' then some '\x0c'
  else if c = 'n' then some '\n'
  else if c = 'r' then some '\r'
  else if c = 't' then some '\t'
  else none

def hexValue (c : Char) : Nat :=
  if c.isDigit then c.toNat - '0'.toNat else c.toNat - 'a'.toNat + 10

/-- Read up to the closing quote. -/
def readChars : List Char → Option (List Char × List Char)
  | '"' :: rest => some ([], rest)
  | '\\' :: 'u' :: '0' :: '0' :: high :: low :: rest =>
      (readChars rest).map fun result =>
        (Char.ofNat (16 * hexValue high + hexValue low) :: result.1, result.2)
  | '\\' :: c :: rest =>
      (unescape c).bind fun plain =>
        (readChars rest).map fun result => (plain :: result.1, result.2)
  | c :: rest => (readChars rest).map fun result => (c :: result.1, result.2)
  | [] => none

theorem hexValue_digitChar {digit : Nat} (h : digit < 16) :
    hexValue (Nat.digitChar digit) = digit := by
  have hall : ∀ digit < 16, hexValue (Nat.digitChar digit) = digit := by decide
  exact hall digit h

theorem readChars_escape (c : Char) (rest : List Char) :
    readChars (escape c ++ rest) =
      (readChars rest).map fun result => (c :: result.1, result.2) := by
  unfold escape
  split_ifs with hquote hback hb hf hn hr ht hcontrol
  · simp [readChars, unescape, hquote]
  · simp [readChars, unescape, hback]
  · simp [readChars, unescape, hb]
  · simp [readChars, unescape, hf]
  · simp [readChars, unescape, hn]
  · simp [readChars, unescape, hr]
  · simp [readChars, unescape, ht]
  · have hvalue : 16 * hexValue (Nat.digitChar (c.toNat / 16)) +
        hexValue (Nat.digitChar (c.toNat % 16)) = c.toNat := by
      rw [hexValue_digitChar (by omega), hexValue_digitChar (by omega)]
      omega
    simp [readChars, hvalue, Char.ofNat_toNat]
  · simp [readChars, hback]

theorem readChars_flatMap_escape (text rest : List Char) :
    readChars (text.flatMap escape ++ '"' :: rest) = some (text, rest) := by
  induction text with
  | nil => simp [readChars]
  | cons c text ih => simp [readChars_escape, ih]

def writeString (text : String) : List Char :=
  '"' :: (text.toList.flatMap escape ++ ['"'])

def readString (chars : List Char) : Option (String × List Char) :=
  match chars with
  | '"' :: rest => (readChars rest).map fun result =>
      (String.ofList result.1, result.2)
  | _ => none

theorem readString_writeString (text : String) (rest : List Char) :
    readString (writeString text ++ rest) = some (text, rest) := by
  simp [readString, writeString, readChars_flatMap_escape]

/-! ### Numbers -/

def isNumberChar (c : Char) : Bool := c.isDigit || c == '-' || c == '.'

/-- A way to write numbers that can be read back. -/
structure NumberText where
  write : Number → List Char
  read : List Char → Option Number
  read_write : ∀ number, read (write number) = some number
  write_chars : ∀ number, ∀ c ∈ write number, isNumberChar c = true
  write_ne_nil : ∀ number, write number ≠ []

/-- What follows a number does not continue it. -/
def Stops (rest : List Char) : Prop := ∀ c ∈ rest.head?, isNumberChar c = false

theorem stops_cons {c : Char} {rest : List Char} (h : isNumberChar c = false) :
    Stops (c :: rest) := by
  simpa [Stops] using h

def readNumber (numbers : NumberText) (chars : List Char) :
    Option (Number × List Char) :=
  (numbers.read (chars.takeWhile isNumberChar)).map fun number =>
    (number, chars.dropWhile isNumberChar)

theorem takeWhile_dropWhile_of_stops {text rest : List Char}
    (htext : ∀ c ∈ text, isNumberChar c = true) (hrest : Stops rest) :
    (text ++ rest).takeWhile isNumberChar = text ∧
      (text ++ rest).dropWhile isNumberChar = rest := by
  have hend : rest.takeWhile isNumberChar = [] ∧
      rest.dropWhile isNumberChar = rest := by
    rcases rest with _ | ⟨c, rest⟩
    · exact ⟨rfl, rfl⟩
    · have hc : isNumberChar c = false := hrest c rfl
      simp [hc]
  rw [List.takeWhile_append_of_pos htext, List.dropWhile_append_of_pos htext,
    hend.1, hend.2, List.append_nil]
  exact ⟨rfl, rfl⟩

theorem readNumber_write (numbers : NumberText) (number : Number)
    {rest : List Char} (hrest : Stops rest) :
    readNumber numbers (numbers.write number ++ rest) = some (number, rest) := by
  obtain ⟨htake, hdrop⟩ :=
    takeWhile_dropWhile_of_stops (numbers.write_chars number) hrest
  rw [readNumber, htake, hdrop, numbers.read_write]
  rfl

/-- Decimal integers; a float is written by its bit pattern, which stands in
for its shortest decimal form. -/
def decimalNumber : Number → List Char
  | .posInt value => Nat.toDigits 10 value.toNat
  | .negInt value _ => '-' :: Nat.toDigits 10 value.toInt.natAbs
  | .float bits _ => '.' :: Nat.toDigits 10 bits.toNat

def readDecimalNumber : List Char → Option Number
  | '-' :: digits =>
      let value := Int64.ofInt (-(Nat.ofDigitChars 10 digits 0 : Int))
      if h : value < 0 then some (.negInt value h) else none
  | '.' :: digits =>
      let bits := UInt64.ofNat (Nat.ofDigitChars 10 digits 0)
      if h : bits &&& 0x7ff0000000000000 ≠ 0x7ff0000000000000
      then some (.float bits h) else none
  | digits => some (.posInt (UInt64.ofNat (Nat.ofDigitChars 10 digits 0)))

theorem isNumberChar_of_mem_toDigits {value : Nat} {c : Char}
    (h : c ∈ Nat.toDigits 10 value) : isNumberChar c = true := by
  have hdigit := Nat.isDigit_of_mem_toDigits (by decide) (by decide) h
  simp [isNumberChar, hdigit]

theorem readDecimalNumber_toDigits (value : Nat) :
    readDecimalNumber (Nat.toDigits 10 value) =
      some (.posInt (UInt64.ofNat value)) := by
  have hread : ∀ digits : List Char, (∀ c ∈ digits, c.isDigit = true) →
      readDecimalNumber digits =
        some (.posInt (UInt64.ofNat (Nat.ofDigitChars 10 digits 0))) := by
    intro digits hdigits
    unfold readDecimalNumber
    split
    · exact absurd (hdigits '-' List.mem_cons_self) (by decide)
    · exact absurd (hdigits '.' List.mem_cons_self) (by decide)
    · rfl
  rw [hread _ fun c hc => Nat.isDigit_of_mem_toDigits (by decide) (by decide) hc,
    Nat.ofDigitChars_ten_toDigits]

def decimalNumberText : NumberText where
  write := decimalNumber
  read := readDecimalNumber
  read_write number := by
    rcases number with value | ⟨value, hnegative⟩ | ⟨bits, hfinite⟩
    · rw [decimalNumber, readDecimalNumber_toDigits]
      simp
    · have hvalue : Int64.ofInt (-(value.toInt.natAbs : Int)) = value := by
        have hlt : value.toInt < 0 := by simpa [Int64.lt_iff_toInt_lt] using hnegative
        have habs : -(value.toInt.natAbs : Int) = value.toInt := by omega
        rw [habs, Int64.ofInt_toInt]
      simp only [decimalNumber, readDecimalNumber, Nat.ofDigitChars_ten_toDigits,
        hvalue, hnegative, ↓reduceDIte]
    · simp only [decimalNumber, readDecimalNumber, Nat.ofDigitChars_ten_toDigits,
        UInt64.ofNat_toNat, hfinite, ne_eq, not_false_eq_true, ↓reduceDIte]
  write_chars number c hc := by
    rcases number with value | ⟨value, _⟩ | ⟨bits, _⟩
    · exact isNumberChar_of_mem_toDigits hc
    · rcases List.mem_cons.mp hc with rfl | hc
      · decide
      · exact isNumberChar_of_mem_toDigits hc
    · rcases List.mem_cons.mp hc with rfl | hc
      · decide
      · exact isNumberChar_of_mem_toDigits hc
  write_ne_nil number := by
    rcases number with value | ⟨value, _⟩ | ⟨bits, _⟩
    · exact Nat.toDigits_ne_nil
    · simp [decimalNumber]
    · simp [decimalNumber]

/-! ### Sequences -/

/-- The remaining entries of a sequence, each behind a comma. -/
def writeMore (close : Char) : List (List Char) → List Char
  | [] => [close]
  | text :: texts => ',' :: (text ++ writeMore close texts)

def writeSequence (close : Char) : List (List Char) → List Char
  | [] => [close]
  | text :: texts => text ++ writeMore close texts

section Sequences

variable {α : Type}

def readMore (close : Char) (readEntry : List Char → Option (α × List Char)) :
    Nat → List Char → Option (List α × List Char)
  | fuel + 1, head :: rest =>
      if head = close then some ([], rest)
      else if head = ',' then do
        let (entry, rest) ← readEntry rest
        let (entries, rest) ← readMore close readEntry fuel rest
        return (entry :: entries, rest)
      else none
  | _, _ => none

def readSequence (close : Char) (readEntry : List Char → Option (α × List Char))
    (fuel : Nat) : List Char → Option (List α × List Char)
  | [] => none
  | head :: rest =>
      if head = close then some ([], rest)
      else do
        let (entry, rest) ← readEntry (head :: rest)
        let (entries, rest) ← readMore close readEntry fuel rest
        return (entry :: entries, rest)

theorem length_writeMore (close : Char) (texts : List (List Char)) :
    texts.length < (writeMore close texts).length := by
  induction texts with
  | nil => simp [writeMore]
  | cons text texts ih =>
      simp only [writeMore, List.length_cons, List.length_append]
      omega

theorem length_le_writeSequence (close : Char) (texts : List (List Char)) :
    texts.length ≤ (writeSequence close texts).length := by
  rcases texts with _ | ⟨text, texts⟩
  · simp
  · have hmore := length_writeMore close texts
    simp only [writeSequence, List.length_cons, List.length_append]
    omega

theorem entry_length_lt_writeMore (close : Char) {text : List Char}
    {texts : List (List Char)} (h : text ∈ texts) :
    text.length < (writeMore close texts).length := by
  induction texts with
  | nil => cases h
  | cons other texts ih =>
      simp only [writeMore, List.length_cons, List.length_append]
      rcases List.mem_cons.mp h with rfl | h
      · omega
      · have hlt := ih h
        omega

theorem entry_length_lt_writeSequence (close : Char) {text : List Char}
    {texts : List (List Char)} (h : text ∈ texts) :
    text.length < (writeSequence close texts).length := by
  rcases texts with _ | ⟨other, texts⟩
  · cases h
  · have hmore := length_writeMore close texts
    simp only [writeSequence, List.length_append]
    rcases List.mem_cons.mp h with rfl | h
    · omega
    · have hlt := entry_length_lt_writeMore close h
      omega

theorem stops_writeMore {close : Char} (hclose : isNumberChar close = false)
    (texts : List (List Char)) (rest : List Char) :
    Stops (writeMore close texts ++ rest) := by
  rcases texts with _ | ⟨text, texts⟩
  · exact stops_cons hclose
  · exact stops_cons (by decide)

/-- An entry is read back from its text whatever stops it. -/
def ReadsBack (readEntry : List Char → Option (α × List Char)) (entry : α)
    (text : List Char) : Prop :=
  ∀ rest, Stops rest → readEntry (text ++ rest) = some (entry, rest)

theorem readMore_writeMore {close : Char} (hclose : isNumberChar close = false)
    (hcomma : ',' ≠ close) {readEntry : List Char → Option (α × List Char)}
    {write : α → List Char} (entries : List α)
    (hread : ∀ entry ∈ entries, ReadsBack readEntry entry (write entry))
    {fuel : Nat} (hfuel : entries.length < fuel) (rest : List Char) :
    readMore close readEntry fuel
        (writeMore close (entries.map write) ++ rest) = some (entries, rest) := by
  induction entries generalizing fuel with
  | nil =>
      obtain ⟨fuel, rfl⟩ := Nat.exists_eq_add_of_lt hfuel
      simp [writeMore, readMore]
  | cons entry entries ih =>
      rcases fuel with _ | fuel
      · omega
      · have hentry := hread entry List.mem_cons_self
          (writeMore close (entries.map write) ++ rest)
          (stops_writeMore hclose _ _)
        have hmore := ih (fun entry hmem => hread entry (List.mem_cons_of_mem _ hmem))
          (Nat.lt_of_succ_lt_succ hfuel)
        simp [writeMore, readMore, hcomma, hentry, hmore]

theorem readSequence_writeSequence (close : Char)
    (hclose : isNumberChar close = false) (hcomma : ',' ≠ close)
    {readEntry : List Char → Option (α × List Char)} {write : α → List Char}
    (entries : List α)
    (hread : ∀ entry ∈ entries, ReadsBack readEntry entry (write entry))
    (hhead : ∀ entry ∈ entries, ∃ head tail,
      write entry = head :: tail ∧ head ≠ close)
    {fuel : Nat} (hfuel : entries.length ≤ fuel) (rest : List Char) :
    readSequence close readEntry fuel
        (writeSequence close (entries.map write) ++ rest) =
      some (entries, rest) := by
  rcases entries with _ | ⟨entry, entries⟩
  · simp [writeSequence, readSequence]
  · obtain ⟨head, tail, htext, hne⟩ := hhead entry List.mem_cons_self
    have hentry := hread entry List.mem_cons_self
      (writeMore close (entries.map write) ++ rest) (stops_writeMore hclose _ _)
    have hmore := readMore_writeMore hclose hcomma entries
      (fun entry hmem => hread entry (List.mem_cons_of_mem _ hmem))
      (Nat.lt_of_succ_le hfuel) rest
    rw [htext] at hentry
    simp only [List.cons_append] at hentry
    simp [writeSequence, readSequence, htext, hne, hentry, hmore]

end Sequences

/-! ### Documents -/

mutual

def write (numbers : NumberText) : Json → List Char
  | .null => ['n', 'u', 'l', 'l']
  | .bool true => ['t', 'r', 'u', 'e']
  | .bool false => ['f', 'a', 'l', 's', 'e']
  | .number value => numbers.write value
  | .string value => writeString value
  | .array items => '[' :: writeSequence ']' (writeItems numbers items)
  | .object members => '{' :: writeSequence '}' (writeMembers numbers members)

def writeItems (numbers : NumberText) : List Json → List (List Char)
  | [] => []
  | item :: items => write numbers item :: writeItems numbers items

def writeMembers (numbers : NumberText) :
    List (String × Json) → List (List Char)
  | [] => []
  | (name, value) :: members =>
      (writeString name ++ ':' :: write numbers value) ::
        writeMembers numbers members

end

def writeMember (numbers : NumberText) (member : String × Json) : List Char :=
  writeString member.1 ++ ':' :: write numbers member.2

theorem writeItems_eq_map (numbers : NumberText) (items : List Json) :
    writeItems numbers items = items.map (write numbers) := by
  induction items with
  | nil => rfl
  | cons item items ih => simp [writeItems, ih]

theorem writeMembers_eq_map (numbers : NumberText)
    (members : List (String × Json)) :
    writeMembers numbers members = members.map (writeMember numbers) := by
  induction members with
  | nil => rfl
  | cons member members ih => simp [writeMembers, writeMember, ih]

def readLiteral : List Char → Option (Json × List Char)
  | 'n' :: 'u' :: 'l' :: 'l' :: rest => some (.null, rest)
  | 't' :: 'r' :: 'u' :: 'e' :: rest => some (.bool true, rest)
  | 'f' :: 'a' :: 'l' :: 's' :: 'e' :: rest => some (.bool false, rest)
  | _ => none

def readMember (readValue : List Char → Option (Json × List Char))
    (chars : List Char) : Option ((String × Json) × List Char) :=
  match readString chars with
  | some (name, ':' :: rest) =>
      (readValue rest).map fun result => ((name, result.1), result.2)
  | _ => none

def readValue (numbers : NumberText) :
    Nat → List Char → Option (Json × List Char)
  | fuel + 1, head :: rest =>
      if isNumberChar head then
        (readNumber numbers (head :: rest)).map fun result =>
          (.number result.1, result.2)
      else if head = '"' then
        (readString (head :: rest)).map fun result => (.string result.1, result.2)
      else if head = '[' then
        (readSequence ']' (readValue numbers fuel) fuel rest).map fun result =>
          (.array result.1, result.2)
      else if head = '{' then
        (readSequence '}' (readMember (readValue numbers fuel)) fuel rest).map
          fun result => (.object result.1, result.2)
      else readLiteral (head :: rest)
  | _, _ => none

/-- No document starts with a closing bracket. -/
theorem write_head (numbers : NumberText) (document : Json) :
    ∃ head tail, write numbers document = head :: tail ∧ head ≠ ']' := by
  rcases document with _ | value | value | value | items | members
  · exact ⟨_, _, rfl, by decide⟩
  · rcases value with _ | _
    · exact ⟨_, _, rfl, by decide⟩
    · exact ⟨_, _, rfl, by decide⟩
  · obtain ⟨head, tail, htext⟩ := List.exists_cons_of_ne_nil
      (numbers.write_ne_nil value)
    refine ⟨head, tail, htext, ?_⟩
    rintro rfl
    have hchar := numbers.write_chars value ']' (htext ▸ List.mem_cons_self)
    exact absurd hchar (by decide)
  · exact ⟨_, _, rfl, by decide⟩
  · exact ⟨_, _, rfl, by decide⟩
  · exact ⟨_, _, rfl, by decide⟩

theorem readsBack_number (numbers : NumberText) (value : Number) (fuel : Nat) :
    ReadsBack (readValue numbers (fuel + 1)) (.number value)
      (numbers.write value) := by
  intro rest hrest
  obtain ⟨head, tail, htext⟩ := List.exists_cons_of_ne_nil
    (numbers.write_ne_nil value)
  have hhead : isNumberChar head = true :=
    numbers.write_chars value head (htext ▸ List.mem_cons_self)
  have hread := readNumber_write numbers value hrest
  rw [htext, List.cons_append] at hread ⊢
  simp [readValue, hhead, hread]

theorem readsBack_string (numbers : NumberText) (value : String) (fuel : Nat) :
    ReadsBack (readValue numbers (fuel + 1)) (.string value)
      (writeString value) := by
  intro rest _
  have hread := readString_writeString value rest
  rw [writeString, List.cons_append] at hread ⊢
  have hquote : isNumberChar '"' = false := by decide
  rw [readValue, hread]
  simp [hquote]

theorem readsBack_array (numbers : NumberText) {items : List Json} {fuel : Nat}
    (hread : ∀ item ∈ items,
      ReadsBack (readValue numbers fuel) item (write numbers item))
    (hfuel : items.length ≤ fuel) :
    ReadsBack (readValue numbers (fuel + 1)) (.array items)
      (write numbers (.array items)) := by
  intro rest _
  have hsequence := readSequence_writeSequence ']' (by decide)
    (by decide) items hread (fun item _ => write_head numbers item) hfuel rest
  have hbracket : isNumberChar '[' = false := by decide
  simp [readValue, write, writeItems_eq_map, hbracket, hsequence]

theorem readsBack_member (numbers : NumberText) {member : String × Json}
    {fuel : Nat}
    (hread : ReadsBack (readValue numbers fuel) member.2
      (write numbers member.2)) :
    ReadsBack (readMember (readValue numbers fuel)) member
      (writeMember numbers member) := by
  intro rest hrest
  have hname := readString_writeString member.1
    (':' :: write numbers member.2 ++ rest)
  have hvalue := hread rest hrest
  simp only [List.cons_append] at hname
  simp [readMember, writeMember, hname, hvalue]

theorem readsBack_object (numbers : NumberText)
    {members : List (String × Json)} {fuel : Nat}
    (hread : ∀ member ∈ members,
      ReadsBack (readValue numbers fuel) member.2 (write numbers member.2))
    (hfuel : members.length ≤ fuel) :
    ReadsBack (readValue numbers (fuel + 1)) (.object members)
      (write numbers (.object members)) := by
  intro rest _
  have hsequence := readSequence_writeSequence '}' (by decide)
    (by decide) members
    (fun member hmember => readsBack_member numbers (hread member hmember))
    (fun member _ => ⟨'"', _, rfl, by decide⟩) hfuel rest
  have hbrace : isNumberChar '{' = false := by decide
  simp [readValue, write, writeMembers_eq_map, hbrace, hsequence]

/-- Reading a written document gives it back and leaves what follows. -/
theorem readValue_write (numbers : NumberText) (document : Json) {fuel : Nat}
    (hfuel : (write numbers document).length ≤ fuel + 1) :
    ReadsBack (readValue numbers (fuel + 1)) document (write numbers document) := by
  induction document generalizing fuel with
  | null =>
      intro rest _
      rfl
  | bool value =>
      intro rest _
      rcases value with _ | _ <;> rfl
  | number value => exact readsBack_number numbers value fuel
  | string value => exact readsBack_string numbers value fuel
  | array items ih =>
      rw [write, writeItems_eq_map, List.length_cons] at hfuel
      apply readsBack_array
      · intro item hitem
        have hlength := entry_length_lt_writeSequence ']'
          (List.mem_map_of_mem (f := write numbers) hitem)
        rcases fuel with _ | fuel
        · omega
        · exact ih item hitem (by omega)
      · have hlength := length_le_writeSequence ']' (items.map (write numbers))
        rw [List.length_map] at hlength
        omega
  | object members ih =>
      rw [write, writeMembers_eq_map, List.length_cons] at hfuel
      apply readsBack_object
      · intro member hmember
        have hlength := entry_length_lt_writeSequence '}'
          (List.mem_map_of_mem (f := writeMember numbers) hmember)
        rw [writeMember, List.length_append, List.length_cons] at hlength
        rcases fuel with _ | fuel
        · omega
        · exact ih member hmember (by omega)
      · have hlength := length_le_writeSequence '}'
          (members.map (writeMember numbers))
        rw [List.length_map] at hlength
        omega

/-! ### Texts -/

def print (numbers : NumberText) (document : Json) : String :=
  String.ofList (write numbers document)

def parse (numbers : NumberText) (text : String) : Option Json :=
  match readValue numbers text.toList.length text.toList with
  | some (document, []) => some document
  | _ => none

theorem parse_print (numbers : NumberText) (document : Json) :
    parse numbers (print numbers document) = some document := by
  obtain ⟨head, tail, htext, _⟩ := write_head numbers document
  have hlength : (write numbers document).length = tail.length + 1 := by
    rw [htext, List.length_cons]
  have hread := readValue_write numbers document hlength.le [] (by simp [Stops])
  rw [List.append_nil, ← hlength] at hread
  rw [parse, print, String.toList_ofList, hread]

example : print decimalNumberText
    (.object [("key", .array [.null, .number (.posInt 60)]), ("line", .string "a\n\"")]) =
    "\x7b\"key\":[null,60],\"line\":\"a\\n\\\"\"\x7d" := by decide

end CompactText

end RemoteRunner
