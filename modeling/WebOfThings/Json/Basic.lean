import WebOfThings.Numeric.Double

/-!
# JSON values

A value is null, a truth value, a number, a text, a list, or an object: named members. Integers
and doubles are different numbers even where they are as large, since they are written
differently; an integer lies in `-2 ^ 63 .. 2 ^ 64 - 1` wherever one is read.

The members of an object *value* are sorted by name, each name once (`Json.Members.insert`); the
same type with its members in any order is what a document to be written is laid out in, and
`Json.sorted` passes from the one to the other. `Json.same` is equality of values: it is
structural, except that doubles compare as numbers.
-/

namespace WebOfThings

/-- A number of a JSON value. -/
inductive Number
  /-- A whole number, written without a point. -/
  | integer (value : Int)
  /-- A double, written with a point or a power of ten. -/
  | double (value : Double)
  deriving DecidableEq, Repr, Inhabited

/-- A JSON value. -/
inductive Json
  /-- No value. -/
  | null
  /-- A truth value. -/
  | bool (value : Bool)
  /-- A number. -/
  | number (value : Number)
  /-- A text. -/
  | string (value : String)
  /-- A list of values. -/
  | array (items : List Json)
  /-- Named values. -/
  | object (members : List (String × Json))
  deriving Repr, Inhabited

namespace Number

/-- Equality of numbers: an integer is no double, and doubles compare as numbers. -/
def same : Number → Number → Bool
  | integer i, integer j => i = j
  | double x, double y => x.same y
  | _, _ => false

/-- The number as a double. -/
def toDouble : Number → Double
  | integer i => Double.ofInt i
  | double x => x

end Number

/-- Named values in the order of their names. -/
abbrev Members (α : Type) := List (String × α)

namespace Members

variable {α : Type}

/-- Adds a member at the place of its name; a member of that name is replaced. -/
def insert (name : String) (value : α) : Members α → Members α
  | [] => [(name, value)]
  | (other, kept) :: rest =>
    if name = other then (name, value) :: rest
    else if name < other then (name, value) :: (other, kept) :: rest
    else (other, kept) :: insert name value rest

/-- The members given, sorted; of two with one name the later one counts. -/
def ofList (members : List (String × α)) : Members α :=
  members.foldl (fun sorted (name, value) => insert name value sorted) []

/-- The value of a name. -/
def get? (name : String) : Members α → Option α
  | [] => none
  | (other, value) :: rest => if name = other then some value else get? name rest

/-- The members are in the order of their names, each name once. -/
def Sorted (members : Members α) : Prop := members.Pairwise fun m n => m.1 < n.1

theorem mem_insert {name : String} {value : α} {e : String × α} {members : Members α}
    (h : e ∈ insert name value members) : e = (name, value) ∨ e ∈ members := by
  induction members with
  | nil => simpa [insert] using h
  | cons e members ih => grind [insert]

theorem Sorted.insert {members : Members α} (h : members.Sorted) (name : String) (value : α) :
    (insert name value members).Sorted := by
  induction members with
  | nil => simp [Members.insert, Sorted]
  | cons e members ih =>
    obtain ⟨other, kept⟩ := e
    obtain ⟨hlt, hs⟩ := List.pairwise_cons.1 h
    simp only [Members.insert]
    split
    · next he => exact List.pairwise_cons.2 ⟨fun n hn => he ▸ hlt n hn, hs⟩
    split
    · next hne hn =>
      refine List.pairwise_cons.2 ⟨fun n hmem => ?_, h⟩
      rcases List.mem_cons.1 hmem with rfl | hmem
      · exact hn
      · exact String.lt_trans hn (hlt n hmem)
    · next hne hn =>
      have hother : other < name := by
        rw [String.not_lt] at hn
        exact Decidable.byContradiction fun hnot =>
          hne (String.le_antisymm (String.not_lt.1 hnot) hn)
      refine List.pairwise_cons.2 ⟨fun n hmem => ?_, ih hs⟩
      rcases mem_insert hmem with rfl | hmem
      · exact hother
      · exact hlt n hmem

theorem sorted_ofList (members : List (String × α)) : (ofList members).Sorted := by
  unfold ofList
  suffices ∀ sorted : Members α, sorted.Sorted →
      (members.foldl (fun sorted (name, value) => insert name value sorted) sorted).Sorted from
    this [] List.Pairwise.nil
  induction members with
  | nil => exact fun _ h => h
  | cons e members ih => exact fun sorted h => ih _ (h.insert e.1 e.2)

/-- In sorted members no name comes twice. -/
theorem Sorted.nodup {members : Members α} (h : members.Sorted) :
    (members.map (·.1)).Nodup := by
  rw [List.Nodup, List.pairwise_map]
  refine List.Pairwise.imp ?_ h
  intro m n hlt he
  exact String.lt_irrefl _ (he ▸ hlt)

end Members

namespace Json

/-- The integer of a number written without a point. -/
def ofInt (i : Int) : Json := number (.integer i)

/-- A double as a value; what digits cannot spell becomes null. -/
def ofDouble (x : Double) : Json := if x.isFinite then number (.double x) else null

mutual

/-- Equality of values. -/
def same : Json → Json → Bool
  | null, null => true
  | bool a, bool b => a = b
  | number a, number b => a.same b
  | string a, string b => a = b
  | array a, array b => sameItems a b
  | object a, object b => sameMembers a b
  | _, _ => false

/-- Equality of lists of values. -/
def sameItems : List Json → List Json → Bool
  | [], [] => true
  | a :: as, b :: bs => same a b && sameItems as bs
  | _, _ => false

/-- Equality of the members of two objects. -/
def sameMembers : List (String × Json) → List (String × Json) → Bool
  | [], [] => true
  | (n, a) :: as, (m, b) :: bs => n = m && same a b && sameMembers as bs
  | _, _ => false

end

mutual

/-- The value a laid out document stands for: the members of every object sorted by name. -/
def sorted : Json → Json
  | array items => array (sortedItems items)
  | object members => object (Members.ofList (sortedMembers members))
  | other => other

/-- The values a list of documents stands for. -/
def sortedItems : List Json → List Json
  | [] => []
  | item :: rest => sorted item :: sortedItems rest

/-- The values that the members of a document stand for, in the order given. -/
def sortedMembers : List (String × Json) → List (String × Json)
  | [] => []
  | (name, value) :: rest => (name, sorted value) :: sortedMembers rest

end

/-- Whether the value is an object. -/
def isObject : Json → Bool
  | object _ => true
  | _ => false

/-- The truth value that a value is, if it is one. -/
def bool? : Json → Option Bool
  | bool b => some b
  | _ => none

/-- The number that a value is, if it is one. -/
def number? : Json → Option Number
  | number n => some n
  | _ => none

/-- The text that a value is, if it is one. -/
def string? : Json → Option String
  | string s => some s
  | _ => none

/-- The items of a list; nothing else has any. -/
def items : Json → List Json
  | array items => items
  | _ => []

/-- The members of an object; nothing else has any. -/
def members : Json → Members Json
  | object members => members
  | _ => []

/-- The member of a name. -/
def get? (name : String) (j : Json) : Option Json := Members.get? name j.members

end Json

end WebOfThings
