import Mathlib
import WebOfThings.Proofs.Spelling

/-!
# Values

What is read is a value: its members are sorted and it equals itself.

* `Members.perm_ofList`, `Members.ofList_of_sorted`: sorting members of different names keeps them,
  and leaves sorted ones as they are;
* `Document.settled_of_value?`: what is read is settled (`Json.Settled`);
* `Document.value?_of_nesting`: how deep a document may be nested matters only if it is nested
  deeper.
-/

namespace WebOfThings

/-! ## Sorted members -/

namespace Members

variable {α β : Type}

theorem perm_insert {name : String} {value : α} {members : Members α}
    (h : name ∉ members.map (·.1)) :
    (insert name value members).Perm ((name, value) :: members) := by
  induction members with
  | nil => exact List.Perm.refl _
  | cons e members ih =>
    obtain ⟨other, kept⟩ := e
    rw [List.map_cons, List.mem_cons, not_or] at h
    rw [insert, if_neg h.1]
    split
    · exact List.Perm.refl _
    · exact ((ih h.2).cons _).trans (List.Perm.swap ..)

theorem ofList_concat (members : List (String × α)) (e : String × α) :
    ofList (members ++ [e]) = insert e.1 e.2 (ofList members) := by
  simp [ofList]

/-- Sorting members of different names keeps all of them. -/
theorem perm_ofList {members : List (String × α)} (h : (members.map (·.1)).Nodup) :
    (ofList members).Perm members := by
  induction members using List.reverseRecOn with
  | nil => exact List.Perm.refl _
  | append_singleton members e ih =>
    rw [List.map_append, List.nodup_append] at h
    have hperm := ih h.1
    have hnew : e.1 ∉ (ofList members).map (·.1) := fun hmem =>
      h.2.2 _ ((hperm.map _).mem_iff.1 hmem) _ (List.mem_singleton_self _) rfl
    rw [ofList_concat]
    exact (perm_insert hnew).trans ((hperm.cons _).trans (List.perm_append_singleton ..).symm)

theorem insert_of_lt {name : String} {value : α} {members : Members α}
    (h : ∀ e ∈ members, e.1 < name) : insert name value members = members ++ [(name, value)] := by
  induction members with
  | nil => rfl
  | cons e members ih =>
    obtain ⟨hlt, hrest⟩ := List.forall_mem_cons.1 h
    rw [insert, if_neg (String.ne_of_lt hlt).symm, if_neg (String.lt_asymm hlt), ih hrest]
    rfl

/-- Sorted members are left as they are. -/
theorem ofList_of_sorted {members : Members α} (h : members.Sorted) : ofList members = members := by
  induction members using List.reverseRecOn with
  | nil => rfl
  | append_singleton members e ih =>
    obtain ⟨hsorted, -, hlt⟩ := List.pairwise_append.1 h
    rw [ofList_concat, ih hsorted]
    exact insert_of_lt fun other hother => hlt other hother e (List.mem_singleton_self e)

theorem mem_ofList {e : String × α} {members : List (String × α)} (h : e ∈ ofList members) :
    e ∈ members := by
  induction members using List.reverseRecOn with
  | nil => exact h
  | append_singleton members last ih =>
    rw [ofList_concat] at h
    obtain rfl | h := mem_insert h
    · exact List.mem_append_right _ (List.mem_singleton_self _)
    · exact List.mem_append_left _ (ih h)

theorem insert_map (f : α → β) (name : String) (value : α) (members : Members α) :
    insert name (f value) (members.map fun e => (e.1, f e.2)) =
      (insert name value members).map fun e => (e.1, f e.2) := by
  induction members with
  | nil => rfl
  | cons e members ih =>
    simp only [List.map_cons, insert, ih]
    split
    · rfl
    split <;> rfl

/-- Sorting goes by the names alone. -/
theorem ofList_map (f : α → β) (members : List (String × α)) :
    ofList (members.map fun e => (e.1, f e.2)) = (ofList members).map fun e => (e.1, f e.2) := by
  induction members using List.reverseRecOn with
  | nil => rfl
  | append_singleton members e ih =>
    rw [List.map_append, List.map_singleton, ofList_concat, ofList_concat, ih]
    exact insert_map f e.1 e.2 _

end Members

/-! ## What is read -/

namespace Json

variable {items : List Json} {members : List (String × Json)}

theorem documents_eq (items : List Json) : documents items = items.map document := by
  induction items with
  | nil => rfl
  | cons item items ih => rw [documents, ih, List.map_cons]

theorem memberDocuments_eq (members : List (String × Json)) :
    memberDocuments members = members.map fun e => (Quoted.encode e.1, e.2.document) := by
  induction members with
  | nil => rfl
  | cons e members ih => rw [memberDocuments, ih, List.map_cons]

theorem sortedItems_eq (items : List Json) : sortedItems items = items.map sorted := by
  induction items with
  | nil => rfl
  | cons item items ih => rw [sortedItems, ih, List.map_cons]

theorem sortedMembers_eq (members : List (String × Json)) :
    sortedMembers members = members.map fun e => (e.1, e.2.sorted) := by
  induction members with
  | nil => rfl
  | cons e members ih => rw [sortedMembers, ih, List.map_cons]

/-- A value as it is once it has been read: its members are sorted, and it equals itself. -/
structure Settled (j : Json) : Prop where
  sorted : j.sorted = j
  same : j.same j = true

theorem sameItems_self (h : ∀ item ∈ items, item.same item = true) :
    sameItems items items = true := by
  induction items with
  | nil => rfl
  | cons item items ih =>
    obtain ⟨hitem, hitems⟩ := List.forall_mem_cons.1 h
    rw [sameItems, hitem, ih hitems, Bool.and_true]

theorem sameMembers_self (h : ∀ e ∈ members, e.2.same e.2 = true) :
    sameMembers members members = true := by
  induction members with
  | nil => rfl
  | cons e members ih =>
    obtain ⟨he, hmembers⟩ := List.forall_mem_cons.1 h
    rw [sameMembers, he, ih hmembers, decide_eq_true rfl, Bool.and_true, Bool.and_true]

theorem Settled.array (h : ∀ item ∈ items, item.Settled) : (Json.array items).Settled where
  sorted := by
    rw [Json.sorted, sortedItems_eq, List.map_congr_left fun item hitem => (h item hitem).sorted,
      List.map_id']
  same := by
    rw [Json.same]
    exact sameItems_self fun item hitem => (h item hitem).same

theorem Settled.object (h : ∀ e ∈ members, e.2.Settled) :
    (Json.object (Members.ofList members)).Settled where
  sorted := by
    have hsettled : (Members.ofList members).map (fun e => (e.1, e.2.sorted)) =
        Members.ofList members := by
      rw [List.map_congr_left fun e he =>
        congrArg (e.1, ·) (h e (Members.mem_ofList he)).sorted, List.map_id']
    rw [Json.sorted, sortedMembers_eq, hsettled,
      Members.ofList_of_sorted (Members.sorted_ofList members)]
  same := by
    rw [Json.same]
    exact sameMembers_self fun e he => (h e (Members.mem_ofList he)).same

end Json

/-! ## Numbers -/

namespace Double

/-- Every number equals itself. -/
theorem same_self {x : Double} (h : x ≠ nan) : x.same x = true := by
  cases x with
  | nan => exact absurd rfl h
  | finite => simp [same]
  | infinite => simp [same]

theorem ofRounded_ne_nan (negative : Bool) (mantissa power : Nat) :
    ofRounded negative mantissa power ≠ nan := by
  unfold ofRounded
  split
  split
  · exact nofun
  · exact nofun

theorem ofRatio_ne_nan (negative : Bool) (num den : Nat) : ofRatio negative num den ≠ nan :=
  ofRounded_ne_nan _ _ _

theorem mul_ne_nan (x y : Double) : x.mul y ≠ nan := ofRatio_ne_nan _ _ _

theorem div_ne_nan (x y : Double) : x.div y ≠ nan := ofRatio_ne_nan _ _ _

theorem neg_ne_nan {x : Double} (h : x ≠ nan) : x.neg ≠ nan := by
  cases x with
  | nan => exact absurd rfl h
  | finite => exact nofun
  | infinite => exact nofun

end Double

namespace Literal

theorem scaleDown_ne_nan {x : Double} (h : x ≠ .nan) (power : Nat) : scaleDown x power ≠ .nan := by
  induction x, power using scaleDown.induct with
  | case1 x power hle =>
    rw [scaleDown, if_pos hle]
    exact Double.div_ne_nan _ _
  | case2 x power hle hzero =>
    rw [scaleDown, if_neg hle, if_pos hzero]
    exact h
  | case3 x power hle hzero ih =>
    rw [scaleDown, if_neg hle, if_neg hzero]
    exact ih (Double.div_ne_nan _ _)

theorem scale_ne_nan {n : Nat} {power : Int} {x : Double} (h : scale n power = some x) :
    x ≠ .nan := by
  have hn : Double.ofInt n ≠ .nan := Double.ofRatio_ne_nan _ _ _
  simp only [scale] at h
  split at h
  · exact Option.some.inj h ▸ scaleDown_ne_nan hn _
  split at h
  · split at h
    · exact Option.some.inj h ▸ Double.mul_ne_nan _ _
    · cases h
  split at h
  · exact Option.some.inj h ▸ hn
  · cases h

/-- What a literal stands for is a number. -/
theorem same_of_number {l : Literal} {n : Number} (h : l.number = some n) : n.same n = true := by
  simp only [number] at h
  split at h
  · cases h
    simp [Number.same]
  · obtain ⟨x, hx, rfl⟩ := Option.map_eq_some_iff.1 h
    have hne := scale_ne_nan hx
    refine Double.same_self ?_
    split
    · exact Double.neg_ne_nan hne
    · exact hne

end Literal

namespace Document

mutual

/-- How deep lists and objects are nested. -/
def nesting : Document → Nat
  | array items => itemsNesting items + 1
  | object members => membersNesting members + 1
  | _ => 0

/-- How deep the items of a list are nested. -/
def itemsNesting : List Document → Nat
  | [] => 0
  | item :: rest => max (nesting item) (itemsNesting rest)

/-- How deep the members of an object are nested. -/
def membersNesting : List (Bytes × Document) → Nat
  | [] => 0
  | (_, value) :: rest => max (nesting value) (membersNesting rest)

end

mutual

/-- What is read is settled. -/
theorem settled_of_value? {depth : Nat} {j : Json} :
    ∀ {document : Document}, document.value? depth = some j → j.Settled
  | null, h => by
    cases h
    exact ⟨rfl, rfl⟩
  | bool b, h => by
    cases h
    exact ⟨rfl, by simp [Json.same]⟩
  | number literal, h => by
    rw [value?, Option.map_eq_some_iff] at h
    obtain ⟨n, hn, rfl⟩ := h
    exact ⟨rfl, Literal.same_of_number hn⟩
  | string body, h => by
    rw [value?, Option.map_eq_some_iff] at h
    obtain ⟨s, -, rfl⟩ := h
    exact ⟨rfl, by simp [Json.same]⟩
  | array items, h => by
    cases depth with
    | zero => simp [value?] at h
    | succ depth =>
      rw [value?, Option.map_eq_some_iff] at h
      obtain ⟨values, hvalues, rfl⟩ := h
      exact .array (settled_of_itemValues? hvalues)
  | object members, h => by
    cases depth with
    | zero => simp [value?] at h
    | succ depth =>
      rw [value?, Option.map_eq_some_iff] at h
      obtain ⟨values, hvalues, rfl⟩ := h
      exact .object (settled_of_memberValues? hvalues)

theorem settled_of_itemValues? {depth : Nat} {values : List Json} : ∀ {items : List Document},
    itemValues? depth items = some values → ∀ j ∈ values, j.Settled
  | [], h => by
    cases h
    exact List.forall_mem_nil _
  | item :: rest, h => by
    rw [itemValues?, Option.bind_eq_bind, Option.bind_eq_some_iff] at h
    obtain ⟨value, hvalue, h⟩ := h
    obtain ⟨others, hothers, h⟩ := Option.bind_eq_some_iff.1 h
    cases h
    exact List.forall_mem_cons.2 ⟨settled_of_value? hvalue, settled_of_itemValues? hothers⟩

theorem settled_of_memberValues? {depth : Nat} {values : List (String × Json)} :
    ∀ {members : List (Bytes × Document)}, memberValues? depth members = some values →
      ∀ e ∈ values, e.2.Settled
  | [], h => by
    cases h
    exact List.forall_mem_nil _
  | (name, document) :: rest, h => by
    rw [memberValues?, Option.bind_eq_bind, Option.bind_eq_some_iff] at h
    obtain ⟨text, -, h⟩ := h
    obtain ⟨value, hvalue, h⟩ := Option.bind_eq_some_iff.1 h
    obtain ⟨others, hothers, h⟩ := Option.bind_eq_some_iff.1 h
    cases h
    exact List.forall_mem_cons.2 ⟨settled_of_value? hvalue, settled_of_memberValues? hothers⟩

end

mutual

/-- How deep a document may be nested matters only to one that is nested deeper. -/
theorem value?_of_nesting {depth limit : Nat} {j : Json} : ∀ {document : Document},
    document.value? depth = some j → document.nesting ≤ limit → document.value? limit = some j
  | null, h, _ => h
  | bool _, h, _ => h
  | number _, h, _ => by
    rw [value?] at h ⊢
    exact h
  | string _, h, _ => by
    rw [value?] at h ⊢
    exact h
  | array items, h, hle => by
    obtain ⟨limit, rfl⟩ := Nat.exists_eq_succ_of_ne_zero (Nat.ne_zero_of_lt hle)
    cases depth with
    | zero => simp [value?] at h
    | succ depth =>
      rw [value?, Option.map_eq_some_iff] at h ⊢
      obtain ⟨values, hvalues, rfl⟩ := h
      exact ⟨values, itemValues?_of_nesting hvalues (Nat.le_of_succ_le_succ hle), rfl⟩
  | object members, h, hle => by
    obtain ⟨limit, rfl⟩ := Nat.exists_eq_succ_of_ne_zero (Nat.ne_zero_of_lt hle)
    cases depth with
    | zero => simp [value?] at h
    | succ depth =>
      rw [value?, Option.map_eq_some_iff] at h ⊢
      obtain ⟨values, hvalues, rfl⟩ := h
      exact ⟨values, memberValues?_of_nesting hvalues (Nat.le_of_succ_le_succ hle), rfl⟩

theorem itemValues?_of_nesting {depth limit : Nat} {values : List Json} :
    ∀ {items : List Document}, itemValues? depth items = some values →
      itemsNesting items ≤ limit → itemValues? limit items = some values
  | [], h, _ => h
  | item :: rest, h, hle => by
    obtain ⟨hitem, hrest⟩ := Nat.max_le.1 hle
    simp only [itemValues?, Option.bind_eq_bind, Option.bind_eq_some_iff] at h ⊢
    obtain ⟨value, hvalue, others, hothers, h⟩ := h
    exact ⟨value, value?_of_nesting hvalue hitem, others, itemValues?_of_nesting hothers hrest, h⟩

theorem memberValues?_of_nesting {depth limit : Nat} {values : List (String × Json)} :
    ∀ {members : List (Bytes × Document)}, memberValues? depth members = some values →
      membersNesting members ≤ limit → memberValues? limit members = some values
  | [], h, _ => h
  | (name, document) :: rest, h, hle => by
    obtain ⟨hdocument, hrest⟩ := Nat.max_le.1 hle
    simp only [memberValues?, Option.bind_eq_bind, Option.bind_eq_some_iff] at h ⊢
    obtain ⟨text, htext, value, hvalue, others, hothers, h⟩ := h
    exact ⟨text, htext, value, value?_of_nesting hvalue hdocument, others,
      memberValues?_of_nesting hothers hrest, h⟩

end

theorem itemsNesting_le {items : List Document} {limit : Nat} :
    itemsNesting items ≤ limit ↔ ∀ item ∈ items, item.nesting ≤ limit := by
  induction items with
  | nil => simp [itemsNesting]
  | cons item items ih => rw [itemsNesting, Nat.max_le, ih, List.forall_mem_cons]

theorem membersNesting_le {members : List (Bytes × Document)} {limit : Nat} :
    membersNesting members ≤ limit ↔ ∀ e ∈ members, e.2.nesting ≤ limit := by
  induction members with
  | nil => simp [membersNesting]
  | cons e members ih => rw [membersNesting, Nat.max_le, ih, List.forall_mem_cons]

end Document

namespace Json

/-- A list reads back if its items do. -/
theorem value?_array {items : List Json} {depth : Nat}
    (h : ∀ item ∈ items, item.document.value? depth = some item) :
    (array items).document.value? (depth + 1) = some (array items) := by
  have hitems : Document.itemValues? depth (documents items) = some items := by
    induction items with
    | nil => rfl
    | cons item items ih =>
      obtain ⟨hitem, hrest⟩ := List.forall_mem_cons.1 h
      rw [documents, Document.itemValues?, hitem, ih hrest]
      rfl
  rw [document, Document.value?, hitems]
  rfl

/-- How deep lists and objects are nested in what the text of a value says. -/
def nesting (j : Json) : Nat := j.document.nesting

/-- A list that may be nested so deep: its items may be nested one less. -/
theorem exists_of_nesting_array {items : List Json} {depth : Nat}
    (h : (array items).nesting ≤ depth) :
    ∃ limit, depth = limit + 1 ∧ ∀ item ∈ items, item.nesting ≤ limit := by
  obtain ⟨limit, rfl⟩ := Nat.exists_eq_succ_of_ne_zero (Nat.ne_zero_of_lt h)
  refine ⟨limit, rfl, fun item hitem => ?_⟩
  have hle := Document.itemsNesting_le.1 (Nat.le_of_succ_le_succ h)
  rw [documents_eq] at hle
  exact hle _ (List.mem_map_of_mem hitem)

/-- An object that may be nested so deep: its members may be nested one less. -/
theorem exists_of_nesting_object {members : List (String × Json)} {depth : Nat}
    (h : (object members).nesting ≤ depth) :
    ∃ limit, depth = limit + 1 ∧ ∀ e ∈ members, e.2.nesting ≤ limit := by
  obtain ⟨limit, rfl⟩ := Nat.exists_eq_succ_of_ne_zero (Nat.ne_zero_of_lt h)
  refine ⟨limit, rfl, fun e he => ?_⟩
  have hle := Document.membersNesting_le.1 (Nat.le_of_succ_le_succ h)
  rw [memberDocuments_eq] at hle
  exact hle _ (List.mem_map_of_mem he)

end Json

end WebOfThings
