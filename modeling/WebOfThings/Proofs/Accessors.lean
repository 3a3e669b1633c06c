import WebOfThings.Interaction

/-!
# What the accessors of a snapshot give

A snapshot keeps a value, but its accessors read the bytes again, each by the reader of a type
(`Snapshot.readAs`). A reader of a type reads exactly the documents whose value is of that type, and
gives what the value shows (`Reader.Views`). So the accessors see the value that is kept, wherever
the bytes decode to it; where they do not decode, the value is null, or the readable form of the
bytes, which only the text accessor gives (`Snapshot.Kept`).

* `Literal.int64_le_of_number`: an integer that is read is not below the integers of 64 bits, so the
  accessor of integers need only look at the upper bound;
* `Snapshot.accessors_agree`: of bytes that arrived, and of a value at hand however it was encoded,
  the accessors give the value that is kept, or the default of their type if it is of another type.
-/

namespace WebOfThings

/-! ## What a value shows -/

/-- The signed integer of 64 bits that a number is, if it is one. -/
def Number.int64? : Number → Option Int
  | integer i => if -(Nat.pow 2 63 : Nat) ≤ i ∧ i < Nat.pow 2 63 then some i else none
  | double _ => none

namespace Json

/-- The signed integer of 64 bits that a value is, if it is one. -/
def int64? (j : Json) : Option Int := j.number?.bind Number.int64?

/-- The double that a value is as a number, if it is one. -/
def double? (j : Json) : Option Double := j.number?.map Number.toDouble

/-- The list that a value is, if it is one. -/
def array? : Json → Option (List Json)
  | array items => some items
  | _ => none

/-- The object that a value is, if it is one. -/
def object? : Json → Option (Members Json)
  | object members => some members
  | _ => none

theorem items_eq (j : Json) : j.items = j.array?.getD [] := by cases j <;> rfl

theorem members_eq (j : Json) : j.members = j.object?.getD [] := by cases j <;> rfl

end Json

/-- An integer that a literal stands for is not below those of 64 bits. -/
theorem Literal.int64_le_of_number {l : Literal} {i : Int} (h : l.number = some (.integer i)) :
    -(Nat.pow 2 63 : Nat) ≤ i := by
  simp only [number] at h
  split at h
  · next hinteger =>
    obtain ⟨-, -, -, hnegative⟩ := hinteger
    obtain rfl := Number.integer.inj (Option.some.inj h)
    split
    · next hminus =>
      have hle : (absorb 0 l.whole).1 ≤ Nat.pow 2 63 := (hnegative hminus).2
      omega
    · omega
  · -- a literal of any other form stands for a double
    obtain ⟨x, -, hx⟩ := Option.map_eq_some_iff.1 h
    contradiction

/-- So is one that is read from a text. -/
theorem Json.int64_le_of_read? {text : Bytes} {i : Int}
    (h : Json.read? text = some (.number (.integer i))) : -(Nat.pow 2 63 : Nat) ≤ i := by
  obtain ⟨document, -, h⟩ := Option.bind_eq_some_iff.1 h
  cases document with
  | number literal =>
    obtain ⟨n, hn, he⟩ := Option.map_eq_some_iff.1 h
    obtain rfl := Json.number.inj he
    exact Literal.int64_le_of_number hn
  | null | bool _ => cases h
  | string _ | array _ | object _ => simp [Document.value?, Document.maxDepth] at h

/-! ## Readers of types -/

namespace Reader

/-- A signed integer of 64 bits. -/
def int64 : Reader Int
  | _, .number literal => literal.number.bind Number.int64?
  | _, _ => none

/-- An object with any names, sorted; of two members with one name the later one counts. -/
def object : Reader (Members Json)
  | depth + 1, .object members => (Document.memberValues? depth members).map Members.ofList
  | _, _ => none

/-- A reader reads the documents whose values show something, and gives what they show. -/
def Views {α : Type} (read : Reader α) (view : Json → Option α) : Prop :=
  ∀ depth document, read depth document = (document.value? depth).bind view

theorem Views.read? {α : Type} {read : Reader α} {view : Json → Option α} (h : read.Views view)
    (text : Bytes) : read.read? text = (Json.read? text).bind view := by
  rw [Reader.read?, Json.read?, Option.bind_assoc]
  exact congrArg _ (funext (h Document.maxDepth))

theorem views_bool : bool.Views Json.bool? := by
  intro depth document
  cases document <;> cases depth <;>
    simp [bool, Document.value?, Option.bind_map, Function.comp_def, Json.bool?]

theorem views_string : string.Views Json.string? := by
  intro depth document
  cases document <;> cases depth <;>
    simp [string, Document.value?, Option.bind_map, Function.comp_def, Json.string?]

theorem views_double : double.Views Json.double? := by
  intro depth document
  cases document with
  | number literal => rw [Document.value?, Option.bind_map]; exact Option.map_eq_bind
  | _ =>
    cases depth <;>
      simp [double, Document.value?, Option.bind_map, Function.comp_def, Json.double?, Json.number?]

theorem views_int64 : int64.Views Json.int64? := by
  intro depth document
  cases document <;> cases depth <;>
    simp [int64, Document.value?, Option.bind_map, Function.comp_def, Json.int64?, Json.number?]

theorem mapM_json (depth : Nat) (items : List Document) :
    items.mapM (json depth) = Document.itemValues? depth items := by
  induction items with
  | nil => rfl
  | cons item items ih => rw [List.mapM_cons, ih, Document.itemValues?]; rfl

theorem views_list : (list json).Views Json.array? := by
  intro depth document
  cases document <;> cases depth <;>
    simp [list, mapM_json, Document.value?, Option.bind_map, Function.comp_def, Json.array?]

theorem views_object : object.Views Json.object? := by
  intro depth document
  cases document with
  | object members =>
    cases depth with
    | zero => rfl
    | succ depth => rw [Document.value?, Option.bind_map]; exact Option.map_eq_bind
  | _ =>
    cases depth <;>
      simp [object, Document.value?, Option.bind_map, Function.comp_def, Json.object?]

end Reader

/-! ## Snapshots -/

namespace Snapshot

variable {s : Snapshot}

/-- What a reader makes of the bytes, or a default if it makes nothing of them. -/
def readAs {α : Type} (read : Reader α) (default : α) (s : Snapshot) : α :=
  (read.read? s.encoded).getD default

theorem readAs_eq {α : Type} {read : Reader α} {view : Json → Option α} (h : read.Views view)
    (default : α) (s : Snapshot) : s.readAs read default = (s.decoded?.bind view).getD default := by
  rw [readAs, h.read?, decoded?]

/-- The accessors read the bytes again: each by the reader of its type, with a default. Only a text
    that is the value of a snapshot that is not clean is not read again. -/
structure Rereads (s : Snapshot) : Prop where
  /-- The text. -/
  text : s.toText = (if s.clean then none else s.value.string?).getD (s.readAs Reader.string "")
  /-- The truth value. -/
  bool : s.toBool = s.readAs Reader.bool false
  /-- The integer. -/
  int : s.toInt = s.readAs Reader.int64 0
  /-- The double. -/
  double : s.toDouble = s.readAs Reader.double (Double.zero false)
  /-- The named values. -/
  members : s.toMembers = s.readAs Reader.object []
  /-- The list. -/
  items : s.toItems = s.readAs (Reader.list Reader.json) []

/-- The accessors give the value of the snapshot, or a default if the value is of another type. -/
structure Agrees (s : Snapshot) : Prop where
  /-- The text. -/
  text : s.toText = s.value.string?.getD ""
  /-- The truth value. -/
  bool : s.toBool = s.value.bool?.getD false
  /-- The integer, if it is one of 64 bits. -/
  int : s.toInt = s.value.int64?.getD 0
  /-- The double nearest to the number. -/
  double : s.toDouble = s.value.double?.getD (Double.zero false)
  /-- The named values. -/
  members : s.toMembers = s.value.object?.getD []
  /-- The list. -/
  items : s.toItems = s.value.array?.getD []

/-! ### What the bytes show -/

theorem toText_eq (s : Snapshot) : s.toText =
    (if s.clean then none else s.value.string?).getD ((s.decoded?.bind Json.string?).getD "") := by
  rw [toText]
  cases s.clean <;> cases s.value <;> rfl

theorem toInt_eq (s : Snapshot) : s.toInt = (s.decoded?.bind Json.int64?).getD 0 := by
  unfold toInt
  cases hdecoded : s.decoded? with
  | none => rfl
  | some j =>
    cases j with
    | number n =>
      cases n with
      | integer i =>
        have hlower := Json.int64_le_of_read? hdecoded
        change (if i < Nat.pow 2 63 then i else 0) = (Number.int64? (.integer i)).getD 0
        rw [Number.int64?]
        by_cases hupper : i < Nat.pow 2 63
        · rw [if_pos hupper, if_pos ⟨hlower, hupper⟩, Option.getD_some]
        · rw [if_neg hupper, if_neg fun h => hupper h.2, Option.getD_none]
      | double x => rfl
    | null | bool _ | string _ | array _ | object _ => rfl

theorem toDouble_eq (s : Snapshot) :
    s.toDouble = (s.decoded?.bind Json.double?).getD (Double.zero false) := by
  rw [toDouble, Option.map_bind]
  rfl

theorem toMembers_eq (s : Snapshot) :
    s.toMembers = (s.decoded?.bind Json.object?).getD [] := by
  rw [toMembers]
  cases s.decoded? with
  | none => rfl
  | some j => exact j.members_eq

theorem toItems_eq (s : Snapshot) : s.toItems = (s.decoded?.bind Json.array?).getD [] := by
  rw [toItems]
  cases s.decoded? with
  | none => rfl
  | some j => exact j.items_eq

/-- The accessors of any snapshot read its bytes. -/
theorem rereads (s : Snapshot) : s.Rereads where
  text := by rw [toText_eq, readAs_eq Reader.views_string]
  bool := by rw [toBool, readAs_eq Reader.views_bool]
  int := by rw [toInt_eq, readAs_eq Reader.views_int64]
  double := by rw [toDouble_eq, readAs_eq Reader.views_double]
  members := by rw [toMembers_eq, readAs_eq Reader.views_object]
  items := by rw [toItems_eq, readAs_eq Reader.views_list]

/-! ### What the value shows -/

/-- How the value of a snapshot goes with its bytes. -/
inductive Kept (s : Snapshot) : Prop
  /-- The bytes decode to the value. -/
  | decoded (h : s.decoded? = some s.value)
  /-- They do not decode, and the value is a text in their place. -/
  | readable {text : String} (h : s.decoded? = none) (htext : s.value = .string text)
      (hclean : s.clean = false)
  /-- They do not decode, and there is no value. -/
  | nothing (h : s.decoded? = none) (hnull : s.value = .null)

theorem kept_ofWire (encoded : Bytes) (schema : Option DataSchema) :
    (ofWire encoded schema).Kept := by
  unfold ofWire
  split
  · next value hread => exact .decoded hread
  · next hread => exact .readable hread rfl rfl

theorem kept_ofEncoding (encoding : Option Bytes) (schema : Option DataSchema) :
    (ofEncoding encoding schema).Kept := by
  have hempty : Json.read? [] = none := rfl
  unfold ofEncoding
  split
  · exact .nothing hempty rfl
  · split
    · next value hread => exact .decoded hread
    · exact .nothing hempty rfl

/-- What can be seen neither of a text nor of null is seen of the bytes as it is of the value. -/
theorem Kept.bind_decoded? (h : s.Kept) {α : Type} {view : Json → Option α}
    (htext : ∀ text, view (.string text) = none) (hnull : view .null = none) :
    s.decoded?.bind view = view s.value := by
  cases h with
  | decoded h => rw [h, Option.bind_some]
  | readable h hvalue hclean => rw [h, hvalue, htext, Option.bind_none]
  | nothing h hvalue => rw [h, hvalue, hnull, Option.bind_none]

theorem Kept.toText (h : s.Kept) : s.toText = s.value.string?.getD "" := by
  rw [toText_eq]
  cases h with
  | decoded h =>
    rw [h, Option.bind_some]
    -- the text is the same whether it is read again or not
    split
    · rfl
    · cases s.value.string? <;> rfl
  | readable h hvalue hclean => simp [hvalue, hclean, Json.string?]
  | nothing h hvalue => simp [h, hvalue, Json.string?]

theorem Kept.agrees (h : s.Kept) : s.Agrees where
  text := h.toText
  bool := by rw [toBool, h.bind_decoded? (fun _ => rfl) rfl]
  int := by rw [toInt_eq, h.bind_decoded? (fun _ => rfl) rfl]
  double := by rw [toDouble_eq, h.bind_decoded? (fun _ => rfl) rfl]
  members := by rw [toMembers_eq, h.bind_decoded? (fun _ => rfl) rfl]
  items := by rw [toItems_eq, h.bind_decoded? (fun _ => rfl) rfl]

/-- The accessors of a snapshot, which read its bytes, give its value: a value of their type as it
    is, and a default for any other. This holds of whatever bytes arrived, decodable or not, and of
    whatever an encoder gave for a value at hand, if it gave anything; the schema does not count. -/
theorem accessors_agree (encoded : Bytes) (encoding : Option Bytes) (schema : Option DataSchema) :
    ((ofWire encoded schema).Rereads ∧ (ofWire encoded schema).Agrees) ∧
      (ofEncoding encoding schema).Rereads ∧ (ofEncoding encoding schema).Agrees :=
  ⟨⟨rereads _, (kept_ofWire encoded schema).agrees⟩, rereads _,
    (kept_ofEncoding encoding schema).agrees⟩

end Snapshot

end WebOfThings
