import Mathlib
import MncsForge.Foundation.JsonRoundTrip
import MncsForge.Store.Transactions

/-!
# The files of the record store

The ledger file is JSON Lines.  A line that a commit appends is read back as its entry,
and a line that is not written to its end is refused.  Records, journals and the index
are single lines of canonical JSON.
-/

namespace MncsForge.Store

open MncsForge.Foundation MncsForge.Records MncsForge.Ledger
open MncsForge.Foundation.ByteLines (splitlines splitlines_unbroken splitlines_torn Unbroken Ended)
open MncsForge.Foundation.JsonText (Dialect Legible Room loadBytes loadBytesUnique)

/-- The canonical lines of entries, one after the other. -/
def canonicalLines (entries : List RawEntry) : List UInt8 :=
  entries.flatMap fun entry => (Json.obj entry.fields).canonicalBytes ++ [10]

theorem canonicalLines_cons (entry : RawEntry) (entries : List RawEntry) :
    canonicalLines (entry :: entries) =
      (Json.obj entry.fields).canonicalBytes ++ 10 :: canonicalLines entries := by
  simp [canonicalLines]

/-- The most digits of an integer that the interpreter reads. -/
def intDigitLimit : Nat := 4300

/-- What the interpreter decides about the JSON of a file. -/
structure FileReader where
  /-- The containers that may be open before the recursion limit is reached. -/
  depth : Nat
  /-- The value of a literal with a fraction or an exponent. -/
  float : String → Json
  /-- The message of what `json.loads` raises. -/
  complaint : List UInt8 → String

namespace FileReader

variable (reader : FileReader)

/-- The JSON that `json.loads` takes, with its constants or with `parse_constant` refusing
them. -/
def dialect (constants : Bool) : Dialect where
  constants := constants
  digits := some intDigitLimit
  depth := some reader.depth
  float := reader.float

/-! ## Readers -/

/-- One line of `_read_unlocked_raw`. -/
def readLine (lineNumber : Nat) (line : List UInt8) : Except ForgeError RawEntry := do
  refuseIf (line.getLast? ≠ some 10) "LEDGER_TRUNCATED" s!"ledger line {lineNumber} is incomplete"
  refuseIf (ledgerLineByteCap < line.length) "LEDGER_MALFORMED"
    s!"ledger line {lineNumber} exceeds the byte limit"
  match loadBytes (reader.dialect false) line with
  | .error .tooManyDigits => .error ⟨"ValueError", reader.complaint line⟩
  | .error _ => .error ⟨"LEDGER_MALFORMED", s!"cannot read ledger: {reader.complaint line}"⟩
  | .ok (.obj fields) =>
      if wellFormed : (Json.obj fields).WellFormed then .ok ⟨fields, wellFormed⟩
      else .error ⟨"ValueError", "Out of range float values are not JSON compliant"⟩
  | .ok _ => .error ⟨"LEDGER_MALFORMED", s!"ledger line {lineNumber} is not an object"⟩

/-- The loop of `_read_unlocked_raw` from this line on. -/
def readLines (lineNumber : Nat) : List (List UInt8) → Except ForgeError (List RawEntry)
  | [] => .ok []
  | line :: lines => do
      let entry ← reader.readLine lineNumber line
      let entries ← readLines (lineNumber + 1) lines
      .ok (entry :: entries)

/-- `_read_unlocked_raw` of a file that is there. -/
def decode (bytes : List UInt8) : Except ForgeError (List RawEntry) :=
  reader.readLines 1 (splitlines [] bytes)

/-- `read_json` -/
def readJson (bytes : List UInt8) : Except ForgeError Json := do
  refuseIf (immutableRecordByteCap < bytes.length) "ValueError"
    s!"the file exceeds the {immutableRecordByteCap}-byte JSON read cap"
  match loadBytesUnique (reader.dialect true) bytes with
  | .ok value => .ok value
  | .error .tooDeep => .error ⟨"RecursionError", reader.complaint bytes⟩
  | .error _ => .error ⟨"ValueError", reader.complaint bytes⟩

/-- The store that reads its files so. -/
def store (hashing : Hashing) : LocalRecordStore where
  hashing := hashing
  decode := reader.decode
  loads := fun bytes => (loadBytes (reader.dialect true) bytes).toOption
  readJson := reader.readJson

theorem store_loads (hashing : Hashing) (bytes : List UInt8) :
    (reader.store hashing).loads bytes = (loadBytes (reader.dialect true) bytes).toOption := rfl

/-! ## Reading line by line -/

variable {reader}

theorem readLines_cons_eq_ok {lineNumber : Nat} {line : List UInt8} {lines : List (List UInt8)}
    {raw : List RawEntry} :
    reader.readLines lineNumber (line :: lines) = .ok raw ↔
      ∃ entry entries, reader.readLine lineNumber line = .ok entry ∧
        reader.readLines (lineNumber + 1) lines = .ok entries ∧ raw = entry :: entries := by
  simp only [readLines, bind_eq_ok, Except.ok.injEq]
  constructor
  · rintro ⟨entry, first, entries, others, rfl⟩
    exact ⟨entry, entries, first, others, rfl⟩
  · rintro ⟨entry, entries, first, others, rfl⟩
    exact ⟨entry, first, entries, others, rfl⟩

/-- Lines that are read go on as the lines after them do. -/
theorem readLines_append {lines : List (List UInt8)} {lineNumber : Nat} {raw : List RawEntry}
    (h : reader.readLines lineNumber lines = .ok raw) (more : List (List UInt8)) :
    reader.readLines lineNumber (lines ++ more) =
      (reader.readLines (lineNumber + raw.length) more).map (raw ++ ·) := by
  induction lines generalizing lineNumber raw with
  | nil =>
      obtain rfl := Except.ok.inj h
      rw [List.nil_append, List.length_nil, Nat.add_zero]
      cases reader.readLines lineNumber more <;> rfl
  | cons line lines ih =>
      obtain ⟨entry, entries, first, others, rfl⟩ := readLines_cons_eq_ok.mp h
      have moved : lineNumber + 1 + entries.length = lineNumber + (entry :: entries).length := by
        rw [List.length_cons]
        omega
      rw [List.cons_append, readLines, first, ih others, moved]
      cases reader.readLines (lineNumber + (entry :: entries).length) more <;> rfl

theorem ended_of_readLine {lineNumber : Nat} {line : List UInt8} {entry : RawEntry}
    (h : reader.readLine lineNumber line = .ok entry) : line.getLast? = some 10 := by
  rw [readLine, refuseIf_bind_eq_ok] at h
  exact not_ne_iff.mp h.1

theorem ended_of_readLines {lines : List (List UInt8)} {lineNumber : Nat} {raw : List RawEntry}
    (h : reader.readLines lineNumber lines = .ok raw) :
    ∀ line ∈ lines, line.getLast? = some 10 := by
  induction lines generalizing lineNumber raw with
  | nil => simp
  | cons line lines ih =>
      obtain ⟨entry, entries, first, others, -⟩ := readLines_cons_eq_ok.mp h
      exact List.forall_mem_cons.mpr ⟨ended_of_readLine first, ih others⟩

/-- A ledger that is read ends with a line feed. -/
theorem ended_of_decode {bytes : List UInt8} {raw : List RawEntry}
    (h : reader.decode bytes = .ok raw) : Ended bytes :=
  ByteLines.ended_of_splitlines (ended_of_readLines h)

theorem length_le_of_readLines {lines : List (List UInt8)} {lineNumber : Nat}
    {raw : List RawEntry} (h : reader.readLines lineNumber lines = .ok raw) :
    raw.length = lines.length := by
  induction lines generalizing lineNumber raw with
  | nil =>
      obtain rfl := Except.ok.inj h
      rfl
  | cons line lines ih =>
      obtain ⟨entry, entries, -, others, rfl⟩ := readLines_cons_eq_ok.mp h
      rw [List.length_cons, List.length_cons, ih others]

/-! ## Canonical lines -/

theorem legible_dialect {first second : Bool} {fewer containers : Nat} {v : Json}
    (h : Legible (reader.dialect first) containers v) (le : fewer ≤ containers) :
    Legible (reader.dialect second) fewer v := by
  have same : JsonText.SameLimits (reader.dialect first) (reader.dialect second) :=
    ⟨rfl, rfl, rfl⟩
  exact h.congr same le

theorem readJson_canonicalLine {v : Json} (wellFormed : v.WellFormed)
    (legible : Legible (reader.dialect true) 0 v)
    (short : (v.canonicalBytes ++ [10]).length ≤ immutableRecordByteCap) :
    reader.readJson (v.canonicalBytes ++ [10]) = .ok v := by
  rw [readJson, refuseIf_bind_eq_ok]
  refine ⟨Nat.not_lt.mpr short, ?_⟩
  rw [JsonText.loadBytesUnique_canonicalLine _ wellFormed legible]

theorem digitCount_le {number : Nat} (small : number < 10 ^ intDigitLimit) :
    JsonText.digitCount (number : Int).repr.toList ≤ intDigitLimit := by
  have text : (number : Int).repr.toList = Nat.toDigits 10 number := Nat.toList_repr
  rw [text]
  refine (List.length_filter_le _ _).trans ?_
  exact (Nat.length_toDigits_le_iff (by omega) (by decide)).mpr small

theorem legible_nat {constants : Bool} {number : Nat} (small : number < 10 ^ intDigitLimit)
    (containers : Nat) : Legible (reader.dialect constants) containers (.int number) := by
  intro limit given
  obtain rfl := Option.some.inj given
  exact digitCount_le small

theorem room_dialect {constants : Bool} {containers : Nat} (room : containers < reader.depth) :
    Room (reader.dialect constants) containers := by
  intro limit given
  obtain rfl := Option.some.inj given
  exact room

/-! ## Appended lines -/

/-- The line of an entry that is short enough is read as the entry. -/
theorem readLine_canonical {lineNumber : Nat} {entry : RawEntry}
    (legible : Legible (reader.dialect false) 0 (.obj entry.fields))
    (short : ((Json.obj entry.fields).canonicalBytes ++ [10]).length ≤ ledgerLineByteCap) :
    reader.readLine lineNumber ((Json.obj entry.fields).canonicalBytes ++ [10]) = .ok entry := by
  have read := JsonText.loadBytes_canonicalLine (reader.dialect false) entry.wellFormed legible
  rw [readLine, refuseIf_bind_eq_ok]
  refine ⟨not_ne_iff.mpr List.getLast?_concat, ?_⟩
  rw [refuseIf_bind_eq_ok]
  refine ⟨Nat.not_lt.mpr short, ?_⟩
  rw [read]
  exact dif_pos entry.wellFormed

/-- The ledger with one more line has one more entry. -/
theorem decode_append {bytes : List UInt8} {raw : List RawEntry} {entry : RawEntry}
    (h : reader.decode bytes = .ok raw)
    (legible : Legible (reader.dialect false) 0 (.obj entry.fields))
    (short : ((Json.obj entry.fields).canonicalBytes ++ [10]).length ≤ ledgerLineByteCap) :
    reader.decode (bytes ++ ((Json.obj entry.fields).canonicalBytes ++ [10])) =
      .ok (raw ++ [entry]) := by
  have unbroken := JsonText.unbroken_canonicalBytes entry.wellFormed
  have line : splitlines [] ((Json.obj entry.fields).canonicalBytes ++ [10]) =
      [(Json.obj entry.fields).canonicalBytes ++ [10]] := splitlines_unbroken unbroken [] []
  rw [decode, (ended_of_decode h).splitlines_append, line, readLines_append h, readLines,
    readLine_canonical legible short]
  rfl

/-- A line that is torn is no entry, and nothing before it is read either. -/
theorem decode_torn {bytes torn : List UInt8} {raw : List RawEntry} {entry : RawEntry}
    (h : reader.decode bytes = .ok raw) (part : torn <+: (Json.obj entry.fields).canonicalBytes)
    (begun : torn ≠ []) :
    reader.decode (bytes ++ torn) =
      .error ⟨"LEDGER_TRUNCATED", s!"ledger line {raw.length + 1} is incomplete"⟩ := by
  have unbroken := (JsonText.unbroken_canonicalBytes entry.wellFormed).start part
  have line : splitlines [] torn = [torn] := splitlines_torn unbroken (by simpa using begun)
  have unended : torn.getLast? ≠ some 10 := by
    intro last
    exact (unbroken 10 (List.mem_of_getLast? last)).1 rfl
  rw [decode, (ended_of_decode h).splitlines_append, line, readLines_append h, readLines, readLine,
    refuseIf, if_pos unended, Nat.add_comm]
  rfl

/-- The line of the entry can be read. -/
def Readable (reader : FileReader) (entry : RawEntry) : Prop :=
  Legible (reader.dialect false) 0 (.obj entry.fields) ∧
    ((Json.obj entry.fields).canonicalBytes ++ [10]).length ≤ ledgerLineByteCap

/-- A part of the lines is read as whole lines, or it ends within a line and is refused. -/
theorem readLines_take {entries : List RawEntry}
    (readable : ∀ entry ∈ entries, Readable reader entry) (lineNumber n : Nat) :
    (∃ k ≤ entries.length, (canonicalLines entries).take n = canonicalLines (entries.take k) ∧
      reader.readLines lineNumber (splitlines [] ((canonicalLines entries).take n)) =
        .ok (entries.take k)) ∨
    ∃ k < entries.length, (canonicalLines (entries.take k)).length < n ∧
      n < (canonicalLines (entries.take (k + 1))).length ∧
      reader.readLines lineNumber (splitlines [] ((canonicalLines entries).take n)) =
        .error ⟨"LEDGER_TRUNCATED", s!"ledger line {lineNumber + k} is incomplete"⟩ := by
  induction entries generalizing lineNumber n with
  | nil => exact Or.inl ⟨0, le_rfl, by simp [canonicalLines], by simp [canonicalLines]; rfl⟩
  | cons entry entries ih =>
      obtain ⟨⟨legible, short⟩, others⟩ := List.forall_mem_cons.mp readable
      have unbroken := JsonText.unbroken_canonicalBytes entry.wellFormed
      rw [canonicalLines_cons]
      rcases Nat.eq_zero_or_pos n with rfl | positive
      · exact Or.inl ⟨0, Nat.zero_le _, by simp [canonicalLines], by simp; rfl⟩
      by_cases within : n ≤ (Json.obj entry.fields).canonicalBytes.length
      · -- the cut is in this line
        have torn : ((Json.obj entry.fields).canonicalBytes ++ 10 :: canonicalLines entries).take n =
            (Json.obj entry.fields).canonicalBytes.take n := List.take_append_of_le_length within
        have part := unbroken.start (List.take_prefix n _)
        have begun : [] ++ (Json.obj entry.fields).canonicalBytes.take n ≠ [] := by
          rw [List.nil_append, Ne, List.take_eq_nil_iff]
          rintro (none | none)
          · omega
          · rw [none, List.length_nil] at within
            omega
        have unended : ((Json.obj entry.fields).canonicalBytes.take n).getLast? ≠ some 10 := by
          intro last
          exact (part 10 (List.mem_of_getLast? last)).1 rfl
        refine Or.inr ⟨0, Nat.zero_lt_succ _, positive, ?_, ?_⟩
        · rw [Nat.zero_add, List.take_one, List.head?_cons, Option.toList_some, canonicalLines_cons]
          simp only [List.length_append, List.length_cons]
          omega
        · rw [torn, splitlines_torn part begun, List.nil_append, readLines, readLine, refuseIf,
            if_pos unended]
          rfl
      · -- the cut is after this line
        obtain ⟨m, rfl⟩ : ∃ m, n = (Json.obj entry.fields).canonicalBytes.length + (m + 1) :=
          ⟨n - (Json.obj entry.fields).canonicalBytes.length - 1, by omega⟩
        have whole : ((Json.obj entry.fields).canonicalBytes ++ 10 :: canonicalLines entries).take
            ((Json.obj entry.fields).canonicalBytes.length + (m + 1)) =
            (Json.obj entry.fields).canonicalBytes ++ 10 :: (canonicalLines entries).take m := by
          rw [List.take_length_add_append, List.take_succ_cons]
        rw [whole, splitlines_unbroken unbroken, List.nil_append, readLines,
          readLine_canonical legible short]
        obtain ⟨k, le, text, read⟩ | ⟨k, lt, after, before, read⟩ := ih others (lineNumber + 1) m
        · refine Or.inl ⟨k + 1, Nat.succ_le_succ le, ?_, ?_⟩
          · rw [List.take_succ_cons, canonicalLines_cons, text]
          · rw [read]
            rfl
        · refine Or.inr ⟨k + 1, Nat.succ_lt_succ lt, ?_, ?_, ?_⟩
          · rw [List.take_succ_cons, canonicalLines_cons]
            simp only [List.length_append, List.length_cons]
            omega
          · rw [List.take_succ_cons, canonicalLines_cons]
            simp only [List.length_append, List.length_cons]
            omega
          · rw [read, Nat.add_right_comm, Nat.add_assoc]
            rfl

/-- A ledger that is cut between two lines is read as the entries before the cut, and one
that is cut within a line is refused with the number of that line. -/
theorem decode_cut {entries : List RawEntry}
    (readable : ∀ entry ∈ entries, Readable reader entry) (n : Nat) :
    (∃ k ≤ entries.length, (canonicalLines entries).take n = canonicalLines (entries.take k) ∧
      reader.decode ((canonicalLines entries).take n) = .ok (entries.take k)) ∨
    ∃ k < entries.length, (canonicalLines (entries.take k)).length < n ∧
      n < (canonicalLines (entries.take (k + 1))).length ∧
      reader.decode ((canonicalLines entries).take n) =
        .error ⟨"LEDGER_TRUNCATED", s!"ledger line {k + 1} is incomplete"⟩ := by
  rcases readLines_take readable 1 n with whole | ⟨k, lt, after, before, read⟩
  · exact Or.inl whole
  · exact Or.inr ⟨k, lt, after, before, by rw [decode, read, Nat.add_comm]⟩

end FileReader

def sampleReader : FileReader where
  depth := 1000
  float := .float
  complaint _ := ""

private def cutEntry : RawEntry where
  fields := [("kind", .str "epoch")]
  wellFormed := by decide

theorem decode_cut_sample :
    (∃ k ≤ [cutEntry].length,
      (canonicalLines [cutEntry]).take 4 = canonicalLines ([cutEntry].take k) ∧
        sampleReader.decode ((canonicalLines [cutEntry]).take 4) = .ok ([cutEntry].take k)) ∨
    ∃ k < [cutEntry].length, (canonicalLines ([cutEntry].take k)).length < 4 ∧
      4 < (canonicalLines ([cutEntry].take (k + 1))).length ∧
      sampleReader.decode ((canonicalLines [cutEntry]).take 4) =
        .error ⟨"LEDGER_TRUNCATED", s!"ledger line {k + 1} is incomplete"⟩ := by
  have readable : FileReader.Readable sampleReader cutEntry :=
    ⟨⟨FileReader.room_dialect (by decide), trivial, trivial⟩, by decide +kernel⟩
  exact FileReader.decode_cut (List.forall_mem_singleton.mpr readable) 4

end MncsForge.Store
