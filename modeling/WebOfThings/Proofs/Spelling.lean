import Mathlib
import WebOfThings.Json.Document
import WebOfThings.Json.Writing
import WebOfThings.Proofs.Numerals
import WebOfThings.Proofs.Quotation

/-!
# Spelling

The text of a value says what the value is laid out as.

`Json.document` is what the text of a value says: its texts in their escapes, its numbers in their
digits, its members in the order written. A text spells a document if the document is found wherever
the text stands (`Document.Spells`). What is put together from such texts spells what is put
together from their documents, whatever blanks stand between the parts (`Spells.array`,
`Spells.object`); so, by induction on the value:

* `Json.spells_compact`, `Json.spells_indented`: the text of a value spells its document, without
  blanks or on indented lines;
* `Json.read?_compact`: reading that text back is asking the document for its value.
-/

namespace WebOfThings

/-! ## What a text says -/

namespace Json

mutual

/-- What the text of a value says. A number that digits cannot spell is written as null. -/
def document : Json → Document
  | null => .null
  | bool b => .bool b
  | number n =>
    match n.literal with
    | some literal => .number literal
    | none => .null
  | string s => .string (Quoted.encode s)
  | array items => .array (documents items)
  | object members => .object (memberDocuments members)

/-- What the texts of the items of a list say. -/
def documents : List Json → List Document
  | [] => []
  | item :: rest => document item :: documents rest

/-- What the texts of the members of an object say. -/
def memberDocuments : List (String × Json) → List (Bytes × Document)
  | [] => []
  | (name, value) :: rest => (Quoted.encode name, document value) :: memberDocuments rest

end

end Json

namespace Document

/-- Nothing but blanks. -/
def Blank (text : Bytes) : Prop := ∀ b ∈ text, isBlank b = true

theorem blank_nil : Blank [] := List.forall_mem_nil _

theorem skipBlanks_append {blanks : Bytes} (h : Blank blanks) (text : Bytes) :
    skipBlanks (blanks ++ text) = skipBlanks text :=
  List.dropWhile_append_of_pos h

theorem skipBlanks_cons {b : UInt8} (h : isBlank b = false) (text : Bytes) :
    skipBlanks (b :: text) = b :: text := by
  rw [skipBlanks, List.dropWhile_cons_of_neg (by simp [h])]

/-- Blanks at the front do not count. -/
theorem scan_append_of_blank {blanks : Bytes} (h : Blank blanks) (fuel : Nat) (text : Bytes) :
    scan fuel (blanks ++ text) = scan fuel text := by
  cases fuel with
  | zero => rw [scan, scan]
  | succ fuel => rw [scan, scan, skipBlanks_append h]

theorem scanItems_append_of_blank {blanks : Bytes} (h : Blank blanks) (fuel : Nat) (text : Bytes) :
    scanItems fuel (blanks ++ text) = scanItems fuel text := by
  cases fuel with
  | zero => rw [scanItems, scanItems]
  | succ fuel => rw [scanItems, scanItems, scan_append_of_blank h]

theorem scanMembers_append_of_blank {blanks : Bytes} (h : Blank blanks) (fuel : Nat)
    (text : Bytes) : scanMembers fuel (blanks ++ text) = scanMembers fuel text := by
  cases fuel with
  | zero => rw [scanMembers, scanMembers]
  | succ fuel => rw [scanMembers, scanMembers, skipBlanks_append h]

/-- A text that is found to be a document wherever it stands, with two steps for a byte, if what
    follows is none of what a number is made of. -/
structure Spells (text : Bytes) (document : Document) : Prop where
  begins : ∃ b rest, text = b :: rest ∧ isBlank b = false ∧ b ≠ ']'.toUInt8
  found : ∀ {rest : Bytes} {fuel : Nat}, Literal.Ends rest → 2 * text.length ≤ fuel →
    scan fuel (text ++ rest) = some (document, rest)

/-- Where a text begins there is at least one step. -/
theorem Spells.of_step {b : UInt8} {text : Bytes} {document : Document}
    (hblank : isBlank b = false) (hclose : b ≠ ']'.toUInt8)
    (h : ∀ {rest : Bytes} {fuel : Nat}, Literal.Ends rest → 2 * text.length < fuel →
      scan (fuel + 1) (b :: (text ++ rest)) = some (document, rest)) :
    Spells (b :: text) document where
  begins := ⟨b, text, rfl, hblank, hclose⟩
  found := by
    intro rest fuel hrest hfuel
    rw [List.length_cons] at hfuel
    obtain ⟨fuel, rfl⟩ := Nat.exists_eq_succ_of_ne_zero (n := fuel) (by omega)
    exact h hrest (by omega)

theorem scanWord_append (word : String) (rest : Bytes) :
    scanWord word (Bytes.ofString word ++ rest) = some rest := by
  simp [scanWord]

theorem spells_null : Spells (Bytes.ofString "null") .null :=
  .of_step (by decide) (by decide) fun {rest fuel} _ _ => by
    rw [scan]
    exact congrArg (Option.map (Document.null, ·)) (scanWord_append "null" rest)

theorem spells_true : Spells (Bytes.ofString "true") (.bool true) :=
  .of_step (by decide) (by decide) fun {rest fuel} _ _ => by
    rw [scan]
    exact congrArg (Option.map (Document.bool true, ·)) (scanWord_append "true" rest)

theorem spells_false : Spells (Bytes.ofString "false") (.bool false) :=
  .of_step (by decide) (by decide) fun {rest fuel} _ _ => by
    rw [scan]
    exact congrArg (Option.map (Document.bool false, ·)) (scanWord_append "false" rest)

theorem spells_string (s : String) : Spells (Quoted.text s) (.string (Quoted.encode s)) :=
  .of_step (by decide) (by decide) fun {rest fuel} _ _ => by
    rw [scan, List.append_assoc, List.singleton_append]
    exact congrArg (Option.map fun found => (Document.string found.1, found.2))
      (Quoted.scan_encode s rest)

/-- The byte that a number begins with is a sign or a digit. -/
def StartsNumber (b : UInt8) : Prop := b = '-'.toUInt8 ∨ ∃ d : Digit, b = Literal.byte d

theorem exists_startsNumber {l : Literal} (h : l.WellFormed) :
    ∃ b rest, l.text = b :: rest ∧ StartsNumber b := by
  rw [Literal.text_eq]
  cases l.negative with
  | true => exact ⟨_, _, rfl, .inl rfl⟩
  | false =>
    obtain ⟨d, digits, hd⟩ := List.exists_cons_of_ne_nil h.whole_ne_nil
    rw [hd]
    exact ⟨_, _, rfl, .inr ⟨d, rfl⟩⟩

/-- Such a byte begins nothing else. -/
theorem StartsNumber.plain {b : UInt8} (h : StartsNumber b) :
    isBlank b = false ∧ b ≠ Quoted.quote ∧ b ≠ '['.toUInt8 ∧ b ≠ ']'.toUInt8 ∧ b ≠ '{'.toUInt8 ∧
      b ≠ 'n'.toUInt8 ∧ b ≠ 't'.toUInt8 ∧ b ≠ 'f'.toUInt8 := by
  obtain rfl | ⟨d, rfl⟩ := h
  · decide
  · revert d
    decide

theorem scan_startsNumber {b : UInt8} (h : StartsNumber b) (fuel : Nat) (rest : Bytes) :
    scan (fuel + 1) (b :: rest) =
      (Literal.scan (b :: rest)).map fun (literal, rest) => (number literal, rest) := by
  obtain ⟨hblank, hquote, harray, -, hobject, hn, ht, hf⟩ := h.plain
  rw [scan, skipBlanks_cons hblank]
  dsimp only
  rw [if_neg hquote, if_neg harray, if_neg hobject, if_neg hn, if_neg ht, if_neg hf]

theorem spells_number {l : Literal} (h : l.WellFormed) : Spells l.text (.number l) := by
  obtain ⟨b, text, htext, hstarts⟩ := exists_startsNumber h
  obtain ⟨hblank, -, -, hclose, -⟩ := hstarts.plain
  have hscan {rest : Bytes} (hrest : Literal.Ends rest) := Literal.scan_text h hrest
  rw [htext] at hscan ⊢
  refine .of_step hblank hclose fun {rest fuel} hrest _ => ?_
  rw [scan_startsNumber hstarts, ← List.cons_append, hscan hrest]
  rfl

/-! ## Lists and objects -/

theorem ends_cons {b : UInt8} (h : isBlank b = true ∨ b = ','.toUInt8 ∨ b = ']'.toUInt8 ∨
    b = '}'.toUInt8) (rest : Bytes) : Literal.Ends (b :: rest) := by
  rintro _ ⟨⟩
  simp only [isBlank, Bool.or_eq_true, decide_eq_true_eq] at h
  obtain (((rfl | rfl) | rfl) | rfl) | rfl | rfl | rfl := h <;> decide

/-- What may stand after a part: a comma, a closing bracket, or blanks before one of them. -/
theorem ends_append_of_blank {blanks : Bytes} (h : Blank blanks) {b : UInt8}
    (hb : b = ','.toUInt8 ∨ b = ']'.toUInt8 ∨ b = '}'.toUInt8) (rest : Bytes) :
    Literal.Ends (blanks ++ b :: rest) := by
  cases blanks with
  | nil => exact ends_cons (.inr hb) rest
  | cons c blanks => exact ends_cons (.inl (h c List.mem_cons_self)) _

theorem exists_separated (separator text : Bytes) (texts : List Bytes) :
    ∃ more, Json.separated separator (text :: texts) = text ++ more := by
  cases texts with
  | nil => exact ⟨[], by rw [Json.separated, List.append_nil]⟩
  | cons next texts => exact ⟨_, List.append_assoc ..⟩

theorem separated_cons_cons (separator text next : Bytes) (texts : List Bytes) :
    Json.separated separator (text :: next :: texts) =
      text ++ separator ++ Json.separated separator (next :: texts) := rfl

/-- A text that is found to be a member of an object wherever it stands. -/
inductive SpellsMember : Bytes → Bytes × Document → Prop
  | mk (name : String) {between value : Bytes} {document : Document} (blank : Blank between)
      (spells : Spells value document) :
      SpellsMember (Quoted.text name ++ ':'.toUInt8 :: (between ++ value))
        (Quoted.encode name, document)

theorem SpellsMember.exists_quote {text : Bytes} {member : Bytes × Document}
    (h : SpellsMember text member) : ∃ rest, text = Quoted.quote :: rest := by
  cases h with
  | mk name blank spells => exact ⟨_, rfl⟩

/-- A member is found, and then it is asked what follows. -/
theorem scanMembers_step {text : Bytes} {member : Bytes × Document} (h : SpellsMember text member)
    {rest after : Bytes} {b : UInt8} (hrest : Literal.Ends rest)
    (hskip : skipBlanks rest = b :: after) {fuel : Nat} (hfuel : 2 * text.length ≤ fuel) :
    scanMembers (fuel + 1) (text ++ rest) =
      if b = ','.toUInt8 then
        (scanMembers fuel after).map fun (members, rest) => (member :: members, rest)
      else if b = '}'.toUInt8 then some ([member], after)
      else none := by
  cases h with
  | @mk name between value document blank spells =>
    have hvalue : scan fuel (between ++ (value ++ rest)) = some (document, rest) := by
      rw [scan_append_of_blank blank]
      refine spells.found hrest ?_
      simp only [List.length_append, List.length_cons] at hfuel
      omega
    rw [scanMembers, Quoted.text]
    simp only [List.cons_append, List.append_assoc, List.nil_append,
      skipBlanks_cons (show isBlank Quoted.quote = false by decide), if_true,
      Quoted.scan_encode, Option.bind_eq_bind, Option.bind_some,
      skipBlanks_cons (show isBlank ':'.toUInt8 = false by decide), hvalue, hskip]
    split
    · cases scanMembers fuel after <;> rfl
    · rfl

section

variable {gap last : Bytes} (hgap : Blank gap) (hlast : Blank last)
include hgap hlast

/-- The items of a list are found, whatever blanks stand between them. -/
theorem scanItems_separated {texts : List Bytes} {items : List Document}
    (h : List.Forall₂ Spells texts items) (hne : texts ≠ []) {fuel : Nat}
    (hfuel : 2 * (Json.separated (','.toUInt8 :: gap) texts).length < fuel) (rest : Bytes) :
    scanItems fuel (Json.separated (','.toUInt8 :: gap) texts ++ (last ++ ']'.toUInt8 :: rest)) =
      some (items, rest) := by
  induction h generalizing fuel with
  | nil => exact absurd rfl hne
  | @cons text item texts items hspells hrest ih =>
    obtain ⟨fuel, rfl⟩ := Nat.exists_eq_succ_of_ne_zero (n := fuel) (by omega)
    cases texts with
    | nil =>
      cases hrest
      rw [Json.separated] at hfuel ⊢
      rw [scanItems, hspells.found (ends_append_of_blank hlast (.inr (.inl rfl)) rest) (by omega)]
      simp only [Option.bind_eq_bind, Option.bind_some, skipBlanks_append hlast,
        skipBlanks_cons (show isBlank ']'.toUInt8 = false by decide)]
      rfl
    | cons next texts =>
      rw [separated_cons_cons] at hfuel ⊢
      simp only [List.length_append, List.length_cons] at hfuel
      have hfound := @ih (List.cons_ne_nil _ _) fuel (by omega)
      rw [scanItems, List.append_assoc, List.append_assoc, List.cons_append,
        hspells.found (ends_cons (.inr (.inl rfl)) _) (by omega)]
      simp only [Option.bind_eq_bind, Option.bind_some,
        skipBlanks_cons (show isBlank ','.toUInt8 = false by decide),
        scanItems_append_of_blank hgap, hfound]
      rfl

/-- The members of an object are found, whatever blanks stand between them. -/
theorem scanMembers_separated {texts : List Bytes} {members : List (Bytes × Document)}
    (h : List.Forall₂ SpellsMember texts members) (hne : texts ≠ []) {fuel : Nat}
    (hfuel : 2 * (Json.separated (','.toUInt8 :: gap) texts).length < fuel) (rest : Bytes) :
    scanMembers fuel (Json.separated (','.toUInt8 :: gap) texts ++ (last ++ '}'.toUInt8 :: rest)) =
      some (members, rest) := by
  induction h generalizing fuel with
  | nil => exact absurd rfl hne
  | @cons text member texts members hspells hrest ih =>
    obtain ⟨fuel, rfl⟩ := Nat.exists_eq_succ_of_ne_zero (n := fuel) (by omega)
    cases texts with
    | nil =>
      cases hrest
      rw [Json.separated] at hfuel ⊢
      have hskip : skipBlanks (last ++ '}'.toUInt8 :: rest) = '}'.toUInt8 :: rest := by
        rw [skipBlanks_append hlast, skipBlanks_cons (by decide)]
      rw [scanMembers_step hspells (ends_append_of_blank hlast (.inr (.inr rfl)) rest) hskip
        (by omega)]
      rfl
    | cons next texts =>
      rw [separated_cons_cons] at hfuel ⊢
      simp only [List.length_append, List.length_cons] at hfuel
      have hfound := @ih (List.cons_ne_nil _ _) fuel (by omega)
      rw [List.append_assoc, List.append_assoc, List.cons_append,
        scanMembers_step hspells (ends_cons (.inr (.inl rfl)) _) (skipBlanks_cons (by decide) _)
          (by omega), if_pos rfl, scanMembers_append_of_blank hgap, hfound]
      rfl

/-- A list is found if its items are. -/
theorem spells_array {first : Bytes} (hfirst : Blank first) {texts : List Bytes}
    {items : List Document} (h : List.Forall₂ Spells texts items) (hne : texts ≠ []) :
    Spells ('['.toUInt8 :: (first ++ Json.separated (','.toUInt8 :: gap) texts ++
      (last ++ [']'.toUInt8]))) (.array items) := by
  refine .of_step (by decide) (by decide) fun {rest fuel} _ hfuel => ?_
  simp only [List.length_append] at hfuel
  simp only [List.append_assoc, List.singleton_append]
  have hfound : scanItems fuel _ = some (items, rest) :=
    scanItems_separated hgap hlast h hne (by omega) rest
  rw [← scanItems_append_of_blank hfirst] at hfound
  cases h with
  | nil => exact absurd rfl hne
  | @cons text item texts items hspells hrest =>
    -- the first item does not begin with the closing bracket
    obtain ⟨b, tail, rfl, hblank, hclose⟩ := hspells.begins
    obtain ⟨more, hmore⟩ := exists_separated (','.toUInt8 :: gap) (b :: tail) texts
    rw [hmore] at hfound ⊢
    rw [scan, skipBlanks_cons (by decide)]
    dsimp only
    rw [if_neg (by decide), if_pos rfl, skipBlanks_append hfirst, List.cons_append,
      List.cons_append, skipBlanks_cons hblank]
    dsimp only
    rw [if_neg hclose, ← List.cons_append, ← List.cons_append, hfound]
    rfl

/-- An object is found if its members are. -/
theorem spells_object {first : Bytes} (hfirst : Blank first) {texts : List Bytes}
    {members : List (Bytes × Document)} (h : List.Forall₂ SpellsMember texts members)
    (hne : texts ≠ []) :
    Spells ('{'.toUInt8 :: (first ++ Json.separated (','.toUInt8 :: gap) texts ++
      (last ++ ['}'.toUInt8]))) (.object members) := by
  refine .of_step (by decide) (by decide) fun {rest fuel} _ hfuel => ?_
  simp only [List.length_append] at hfuel
  simp only [List.append_assoc, List.singleton_append]
  have hfound : scanMembers fuel _ = some (members, rest) :=
    scanMembers_separated hgap hlast h hne (by omega) rest
  rw [← scanMembers_append_of_blank hfirst] at hfound
  cases h with
  | nil => exact absurd rfl hne
  | @cons text member texts members hspells hrest =>
    -- the first member begins with a quote
    obtain ⟨tail, rfl⟩ := hspells.exists_quote
    obtain ⟨more, hmore⟩ := exists_separated (','.toUInt8 :: gap) (Quoted.quote :: tail) texts
    rw [hmore] at hfound ⊢
    rw [scan, skipBlanks_cons (by decide)]
    dsimp only
    rw [if_neg (by decide), if_neg (by decide), if_pos rfl, skipBlanks_append hfirst,
      List.cons_append, List.cons_append, skipBlanks_cons (by decide)]
    dsimp only
    rw [if_neg (by decide), ← List.cons_append, ← List.cons_append, hfound]
    rfl

end

theorem spells_array_nil : Spells ['['.toUInt8, ']'.toUInt8] (.array []) :=
  .of_step (by decide) (by decide) fun {rest fuel} _ _ => by
    rw [scan]
    rfl

theorem spells_object_nil : Spells ['{'.toUInt8, '}'.toUInt8] (.object []) :=
  .of_step (by decide) (by decide) fun {rest fuel} _ _ => by
    rw [scan]
    rfl

/-- A text that spells a document is read as that document. -/
theorem Spells.read? {text : Bytes} {document : Document} (h : Spells text document) :
    Document.read? text = some document := by
  have hends : Literal.Ends [] := fun _ hb => nomatch hb
  have hfound : scan (2 * text.length + 1) text = some (document, []) := by
    simpa only [List.append_nil] using h.found hends (Nat.le_succ (2 * text.length))
  rw [Document.read?, hfound]
  rfl

end Document

namespace Json

open Document

mutual

/-- The text of a value without blanks says what the value is laid out as. -/
theorem spells_compact : ∀ j : Json, Spells j.compact j.document
  | null => spells_null
  | bool true => spells_true
  | bool false => spells_false
  | number n => by
    rw [compact, document, numberText]
    match hn : n.literal with
    | some literal => exact spells_number (Number.wellFormed_literal hn)
    | none => exact spells_null
  | string s => spells_string s
  | array [] => spells_array_nil
  | array (item :: items) =>
    spells_array blank_nil blank_nil blank_nil (spells_compactItems (item :: items))
      (List.cons_ne_nil _ _)
  | object [] => spells_object_nil
  | object (member :: members) =>
    spells_object blank_nil blank_nil blank_nil (spells_compactMembers (member :: members))
      (List.cons_ne_nil _ _)

theorem spells_compactItems :
    ∀ items : List Json, List.Forall₂ Spells (compactItems items) (documents items)
  | [] => .nil
  | item :: rest => .cons (spells_compact item) (spells_compactItems rest)

theorem spells_compactMembers : ∀ members : List (String × Json),
    List.Forall₂ SpellsMember (compactMembers members) (memberDocuments members)
  | [] => .nil
  | (name, value) :: rest =>
    .cons (.mk name blank_nil (spells_compact value)) (spells_compactMembers rest)

end

theorem blank_space : Blank [0x20] := List.forall_mem_singleton.2 (by decide)

/-- A new line is blank, however far it is indented. -/
theorem blank_newLine (level : Nat) : Blank (newLine level) :=
  List.forall_mem_cons.2 ⟨by decide, fun b hb => by rw [List.eq_of_mem_replicate hb]; decide⟩

/-- A list whose items stand on lines of their own is found if they are. -/
theorem spells_block_array (level : Nat) {lines : List Bytes} {items : List Document}
    (h : List.Forall₂ Spells lines items) : Spells (block '[' ']' level lines) (.array items) := by
  cases h with
  | nil => exact spells_array_nil
  | cons hitem hitems =>
    rw [block, List.append_assoc]
    · exact spells_array (blank_newLine _) (blank_newLine _) (blank_newLine _) (.cons hitem hitems)
        (List.cons_ne_nil _ _)
    · exact List.cons_ne_nil _ _

/-- So is an object whose members do. -/
theorem spells_block_object (level : Nat) {lines : List Bytes} {members : List (Bytes × Document)}
    (h : List.Forall₂ SpellsMember lines members) :
    Spells (block '{' '}' level lines) (.object members) := by
  cases h with
  | nil => exact spells_object_nil
  | cons hmember hmembers =>
    rw [block, List.append_assoc]
    · exact spells_object (blank_newLine _) (blank_newLine _) (blank_newLine _)
        (.cons hmember hmembers) (List.cons_ne_nil _ _)
    · exact List.cons_ne_nil _ _

mutual

/-- The text of a value on indented lines says the same. -/
theorem spells_indented (level : Nat) : ∀ j : Json, Spells (j.indented level) j.document
  | null => spells_null
  | bool true => spells_true
  | bool false => spells_false
  | number n => by
    have hcompact := spells_compact (number n)
    rwa [compact] at hcompact
  | string s => spells_string s
  | array items => spells_block_array level (spells_indentedItems (level + 1) items)
  | object members => spells_block_object level (spells_indentedMembers (level + 1) members)

theorem spells_indentedItems (level : Nat) :
    ∀ items : List Json, List.Forall₂ Spells (indentedItems level items) (documents items)
  | [] => .nil
  | item :: rest => .cons (spells_indented level item) (spells_indentedItems level rest)

theorem spells_indentedMembers (level : Nat) : ∀ members : List (String × Json),
    List.Forall₂ SpellsMember (indentedMembers level members) (memberDocuments members)
  | [] => .nil
  | (name, value) :: rest =>
    .cons (.mk name blank_space (spells_indented level value)) (spells_indentedMembers level rest)

end

/-- Reading the text of a value back is asking what it says for its value. -/
theorem read?_compact (j : Json) : read? j.compact = j.document.value? maxDepth := by
  rw [read?, j.spells_compact.read?, Option.bind_some]

end Json

end WebOfThings
