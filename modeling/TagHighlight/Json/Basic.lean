import TagHighlight.Number.Double
import TagHighlight.Text.Loose

/-!
# JSON values

Members of an object keep the order in which their names first occurred, and a later member of the
same name replaces the value in place. Integers and reals are apart: `1` and `1.0` are different
values, although they are the same number. Texts and names may hold surrogates that stand alone,
since JSON can write them.
-/

namespace TagHighlight

inductive Json
  | null
  | bool (b : Bool)
  /-- A number without fraction and exponent, of any size. -/
  | int (n : Int)
  /-- A number with a fraction or an exponent, or one that is infinite or no number. -/
  | real (x : Double)
  | str (s : LooseText)
  | arr (items : List Json)
  /-- An object; no two members have one name. -/
  | obj (members : List (LooseText × Json))

namespace Json

/-- The value counts as "on" where a switch is asked for: all but `null`, `false`, zero and what is
empty. -/
def isOn : Json → Bool
  | null => false
  | bool b => b
  | int n => n != 0
  | real x => !x.isZero
  | str s => !s.isEmpty
  | arr items => !items.isEmpty
  | obj members => !members.isEmpty

/-- The word for the kind of a value in messages. -/
def kind : Json → String
  | null => "NoneType"
  | bool _ => "bool"
  | int _ => "int"
  | real _ => "float"
  | str _ => "str"
  | arr _ => "list"
  | obj _ => "dict"

/-- Puts a value under a name: in place of an earlier value, or else at the end. -/
def setMember (name : LooseText) (v : Json) : List (LooseText × Json) → List (LooseText × Json)
  | [] => [(name, v)]
  | (n, w) :: ms => if n = name then (n, v) :: ms else (n, w) :: setMember name v ms

/-- The object with the given members, of which the last of a name counts. -/
def ofMembers (ms : List (LooseText × Json)) : Json :=
  obj (ms.foldl (fun done m => setMember m.1 m.2 done) [])

/-- The value of a member, if the value is an object and has it. -/
def get? (v : Json) (name : LooseText) : Option Json :=
  match v with
  | obj members => members.lookup name
  | _ => none

mutual

/-- The integers that a value holds, wherever they stand in it. -/
def integers : Json → List Int
  | int n => [n]
  | arr items => integersOfItems items
  | obj members => integersOfMembers members
  | _ => []

def integersOfItems : List Json → List Int
  | [] => []
  | v :: vs => integers v ++ integersOfItems vs

def integersOfMembers : List (LooseText × Json) → List Int
  | [] => []
  | (_, v) :: ms => integers v ++ integersOfMembers ms

end

theorem mem_integersOfItems {n : Int} {vs : List Json} :
    n ∈ integersOfItems vs ↔ ∃ v ∈ vs, n ∈ integers v := by
  induction vs with
  | nil => simp [integersOfItems]
  | cons v vs ih => simp [integersOfItems, ih]

theorem mem_integersOfMembers {n : Int} {ms : List (LooseText × Json)} :
    n ∈ integersOfMembers ms ↔ ∃ m ∈ ms, n ∈ integers m.2 := by
  induction ms with
  | nil => simp [integersOfMembers]
  | cons m ms ih =>
    obtain ⟨name, v⟩ := m
    simp [integersOfMembers, ih]

theorem mem_integers_of_get? {v w : Json} {name : LooseText} (hw : v.get? name = some w) {n : Int}
    (hn : n ∈ w.integers) : n ∈ v.integers := by
  cases v with
  | obj members =>
    obtain ⟨before, after, rfl, -⟩ := List.lookup_eq_some_iff.1 hw
    rw [integers, mem_integersOfMembers]
    exact ⟨(name, w), by simp, hn⟩
  | null => cases hw
  | bool _ => cases hw
  | int _ => cases hw
  | real _ => cases hw
  | str _ => cases hw
  | arr _ => cases hw

end Json

end TagHighlight
