import Mathlib.Algebra.Group.Int.Defs
import Mathlib.Algebra.Group.Nat.Defs

/-!
JSON documents as a Python program holds them: integers and floats are kept
apart, a boolean compares equal to the integer it stands for, and an object is
a finite map, listed here in increasing key order.
-/

set_option linter.dupNamespace false

namespace MindscapeLocalCore.Library.Json

/-- A JSON number.  A float is carried by the decimal text that it prints as:
`digits · 10 ^ exponent`, with its sign. -/
inductive Number where
  | int (value : Int)
  | float (negative : Bool) (digits : Nat) (exponent : Int)
  deriving DecidableEq

namespace Number

def mantissa : Number → Int
  | .int value => value
  | .float negative digits _ => if negative then -digits else digits

def exponent : Number → Int
  | .int _ => 0
  | .float _ _ exponent => exponent

/-- The mantissa that the number has at a smaller or equal exponent. -/
def scaledTo (n : Number) (e : Int) : Int :=
  n.mantissa * 10 ^ (n.exponent - e).toNat

def valueEq (a b : Number) : Bool :=
  let e := min a.exponent b.exponent
  a.scaledTo e == b.scaledTo e

def valueLe (a b : Number) : Bool :=
  let e := min a.exponent b.exponent
  decide (a.scaledTo e ≤ b.scaledTo e)

def isInteger (n : Number) : Bool :=
  decide (0 ≤ n.exponent) || n.mantissa % 10 ^ (-n.exponent).toNat == 0

@[simp] theorem valueLe_int (a b : Int) : valueLe (.int a) (.int b) = decide (a ≤ b) := by
  simp [valueLe, scaledTo, mantissa, exponent]

@[simp] theorem valueEq_refl (n : Number) : n.valueEq n = true := by
  simp [valueEq]

end Number

inductive Json where
  | null
  | bool (value : Bool)
  | num (value : Number)
  | str (value : String)
  | arr (items : List Json)
  | obj (members : List (String × Json))

/-- The members of an object. -/
abbrev Dict := List (String × Json)

namespace Dict

/-- The value under a key. -/
def get? (d : Dict) (k : String) : Option Json := d.lookup k

/-- Store a value under a key, keeping the members in key order. -/
def set (d : Dict) (k : String) (v : Json) : Dict :=
  match d with
  | [] => [(k, v)]
  | (k', v') :: rest =>
      if k = k' then (k, v) :: rest
      else if k < k' then (k, v) :: (k', v') :: rest
      else (k', v') :: set rest k v

/-- Remove a key. -/
def erase (d : Dict) (k : String) : Dict := d.filter fun kv => kv.1 != k

/-- Store all members of `new`, over those of `d` with the same key. -/
def update (d new : Dict) : Dict :=
  new.foldl (fun d kv => d.set kv.1 kv.2) d

def has (d : Dict) (k : String) : Bool := (d.get? k).isSome

@[simp] theorem get?_nil (k : String) : get? [] k = none := rfl

theorem get?_cons (k k' : String) (v : Json) (d : Dict) :
    get? ((k', v) :: d) k = if k = k' then some v else get? d k := by
  by_cases h : k = k'
  · subst h
    simp [get?]
  · have hne : (k == k') = false := by simpa using h
    simp [get?, List.lookup_cons, hne, h]

theorem mem_of_get? {d : Dict} {k : String} {v : Json} (h : d.get? k = some v) :
    (k, v) ∈ d := by
  induction d with
  | nil => cases h
  | cons kv rest ih =>
      obtain ⟨key, old⟩ := kv
      rw [get?_cons] at h
      split at h
      · rename_i heq
        cases h
        exact heq ▸ List.mem_cons_self
      · exact List.mem_cons_of_mem _ (ih h)

theorem get?_of_mem {d : Dict} {k : String} {v : Json} (h : (k, v) ∈ d) :
    ∃ v', d.get? k = some v' := by
  induction d with
  | nil => cases h
  | cons kv rest ih =>
      obtain ⟨key, old⟩ := kv
      rw [get?_cons]
      split
      · exact ⟨old, rfl⟩
      · rename_i hne
        rcases List.mem_cons.mp h with heq | hmem
        · cases heq
          exact absurd rfl hne
        · exact ih hmem

theorem get?_set (d : Dict) (k k' : String) (v : Json) :
    (d.set k v).get? k' = if k' = k then some v else d.get? k' := by
  induction d with
  | nil => simp [set, get?_cons]
  | cons kv rest ih =>
      obtain ⟨key, old⟩ := kv
      unfold set
      split
      · rename_i heq
        subst heq
        simp only [get?_cons]
        split <;> simp_all
      · split
        · simp only [get?_cons]
        · rename_i hne _
          simp only [get?_cons, ih]
          split <;> split <;> simp_all

@[simp] theorem get?_set_self (d : Dict) (k : String) (v : Json) :
    (d.set k v).get? k = some v := by
  simp [get?_set]

theorem get?_set_of_ne (d : Dict) {k k' : String} (v : Json) (h : k' ≠ k) :
    (d.set k v).get? k' = d.get? k' := by
  simp [get?_set, h]

theorem set_set (d : Dict) (k : String) (v v' : Json) : (d.set k v).set k v' = d.set k v' := by
  induction d with
  | nil => simp [set]
  | cons kv rest ih =>
      obtain ⟨key, old⟩ := kv
      by_cases heq : k = key
      · simp [set, heq]
      · by_cases hlt : k < key
        · simp [set, heq, hlt]
        · simp [set, heq, hlt, ih]

theorem get?_erase_of_ne (d : Dict) {k k' : String} (h : k' ≠ k) :
    (d.erase k).get? k' = d.get? k' := by
  unfold erase
  induction d with
  | nil => rfl
  | cons kv rest ih =>
      obtain ⟨key, old⟩ := kv
      by_cases hkey : key = k
      · subst hkey
        simpa [get?_cons, h] using ih
      · simp [hkey, get?_cons, ih]

theorem get?_foldl_erase {ks : List String} {k : String} (h : k ∉ ks) (d : Dict) :
    (ks.foldl erase d).get? k = d.get? k := by
  induction ks generalizing d with
  | nil => rfl
  | cons first ks ih =>
      obtain ⟨hne, hrest⟩ := not_or.mp (mt List.mem_cons.mpr h)
      rw [List.foldl_cons, ih hrest, get?_erase_of_ne d hne]

theorem get?_update_of_notMem (new d : Dict) {k : String}
    (h : k ∉ new.map Prod.fst) : (d.update new).get? k = d.get? k := by
  induction new generalizing d with
  | nil => rfl
  | cons kv rest ih =>
      simp only [List.map_cons, List.mem_cons, not_or] at h
      change ((d.set kv.1 kv.2).update rest).get? k = _
      rw [ih _ h.2, get?_set_of_ne _ _ h.1]

theorem get?_update_of_forall {new d : Dict} {k : String} {v : Json}
    (hkey : k ∈ new.map Prod.fst) (hvalue : ∀ v', (k, v') ∈ new → v' = v) :
    (d.update new).get? k = some v := by
  induction new generalizing d with
  | nil => cases hkey
  | cons kv rest ih =>
      obtain ⟨key, value⟩ := kv
      by_cases hrest : k ∈ rest.map Prod.fst
      · exact ih hrest fun v' hmem => hvalue v' (List.mem_cons_of_mem _ hmem)
      · obtain rfl : k = key := (List.mem_cons.mp hkey).resolve_right hrest
        change ((d.set k value).update rest).get? k = _
        rw [get?_update_of_notMem _ _ hrest, get?_set_self,
          hvalue value List.mem_cons_self]

/-- Two objects with the same value under every key but those of `ks`. -/
def AgreeExcept (ks : List String) (a b : Dict) : Prop :=
  ∀ k, k ∉ ks → a.get? k = b.get? k

theorem agreeExcept_trans {ks : List String} {a b c : Dict}
    (hab : AgreeExcept ks a b) (hbc : AgreeExcept ks b c) : AgreeExcept ks a c :=
  fun k hk => (hab k hk).trans (hbc k hk)

theorem agreeExcept_set {ks : List String} {a b : Dict}
    (h : AgreeExcept ks a b) (k : String) (v : Json) :
    AgreeExcept ks (a.set k v) (b.set k v) := by
  intro k' hk'
  simp only [get?_set, h k' hk']

end Dict

namespace Json

/-- The number that a value stands for in a comparison: `True == 1`. -/
def number? : Json → Option Number
  | .bool value => some (.int (if value then 1 else 0))
  | .num value => some value
  | _ => none

def numberEq (a : Number) (b : Json) : Bool :=
  match b.number? with
  | some b => a.valueEq b
  | none => false

mutual

/-- Equality of two documents in Python. -/
def pyEq : Json → Json → Bool
  | .null, .null => true
  | .bool a, b => numberEq (.int (if a then 1 else 0)) b
  | .num a, b => numberEq a b
  | .str a, .str b => a == b
  | .arr as, .arr bs => pyEqItems as bs
  | .obj as, .obj bs => pyEqMembers as bs
  | _, _ => false
termination_by structural a => a

def pyEqItems : List Json → List Json → Bool
  | [], [] => true
  | a :: as, b :: bs => pyEq a b && pyEqItems as bs
  | _, _ => false
termination_by structural as => as

def pyEqMembers : List (String × Json) → List (String × Json) → Bool
  | [], [] => true
  | a :: as, b :: bs => pyEqMember a b && pyEqMembers as bs
  | _, _ => false
termination_by structural as => as

def pyEqMember : String × Json → String × Json → Bool
  | (k, v), (k', v') => k == k' && pyEq v v'
termination_by structural a => a

end

mutual

@[simp] theorem pyEq_refl : ∀ j : Json, pyEq j j = true
  | .null => rfl
  | .bool value => by simp [pyEq, numberEq, number?]
  | .num value => by simp [pyEq, numberEq, number?]
  | .str value => by simp [pyEq]
  | .arr items => by simp [pyEq, pyEqItems_refl items]
  | .obj members => by simp [pyEq, pyEqMembers_refl members]

theorem pyEqItems_refl : ∀ items : List Json, pyEqItems items items = true
  | [] => rfl
  | item :: items => by simp [pyEqItems, pyEq_refl item, pyEqItems_refl items]

theorem pyEqMembers_refl :
    ∀ members : List (String × Json), pyEqMembers members members = true
  | [] => rfl
  | member :: members => by
      simp [pyEqMembers, pyEqMember_refl member, pyEqMembers_refl members]

theorem pyEqMember_refl : ∀ member : String × Json,
    pyEqMember member member = true
  | (key, value) => by simp [pyEqMember, pyEq_refl value]

end

/-- Equality of two values that may be absent, where absence is `None`. -/
def pyEqOption (a b : Option Json) : Bool :=
  pyEq (a.getD .null) (b.getD .null)

@[simp] theorem pyEqOption_refl (a : Option Json) : pyEqOption a a = true :=
  pyEq_refl _

/-- Equality of two objects in Python. -/
def dictEq (a b : Dict) : Bool := pyEqMembers a b

@[simp] theorem dictEq_refl (d : Dict) : dictEq d d = true :=
  pyEqMembers_refl d

def truthy : Json → Bool
  | .null => false
  | .bool value => value
  | .num value => value.mantissa != 0
  | .str value => value != ""
  | .arr items => !items.isEmpty
  | .obj members => !members.isEmpty

/-- `d.get(k)` when `j` is an object, and nothing otherwise. -/
def get? : Json → String → Option Json
  | .obj members, k => Dict.get? members k
  | _, _ => none

def str? : Json → Option String
  | .str value => some value
  | _ => none

@[simp] theorem get?_obj (d : Dict) (k : String) :
    (Json.obj d).get? k = Dict.get? d k := rfl

/-- A value that may be absent, as JSON. -/
def ofOption : Option String → Json
  | none => .null
  | some s => .str s

@[simp] theorem ofOption_none : ofOption none = .null := rfl

@[simp] theorem ofOption_some (s : String) : ofOption (some s) = .str s := rfl

def nat (n : Nat) : Json := .num (.int n)

end Json

end MindscapeLocalCore.Library.Json

/-!
Paths into a JSON document: the names of members and the positions of items. A path that is not
empty leads to a smaller document.
-/

namespace MindscapeLocalCore.Library.JsonPaths

open Json

inductive Step where
  | key (name : String)
  | index (i : ℕ)
  deriving DecidableEq

def Step.into : Json → Step → Option Json
  | .obj members, .key name => Dict.get? members name
  | .arr items, .index i => items[i]?
  | _, _ => none

/-- The document that a path leads to. -/
def follow : Json → List Step → Option Json
  | document, [] => some document
  | document, step :: path => (step.into document).bind fun next => follow next path

variable {document next last : Json} {step : Step} {path path' : List Step}

@[simp] theorem follow_nil : follow document [] = some document := rfl

@[simp] theorem follow_cons :
    follow document (step :: path) = (step.into document).bind fun next => follow next path := rfl

theorem follow_append :
    follow document (path ++ path') = (follow document path).bind fun next => follow next path' := by
  induction path generalizing document with
  | nil => rfl
  | cons step path ih =>
      rw [List.cons_append, follow_cons, follow_cons]
      cases step.into document with
      | none => rfl
      | some next => exact ih

theorem sizeOf_get?_lt {members : Dict} {name : String} (h : Dict.get? members name = some next) :
    sizeOf next < sizeOf (Json.obj members) := by
  have hmember := List.sizeOf_lt_of_mem (Dict.mem_of_get? h)
  have hpair : sizeOf (name, next) = 1 + sizeOf name + sizeOf next := Prod.mk.sizeOf_spec name next
  have hobj : sizeOf (Json.obj members) = 1 + sizeOf members := Json.obj.sizeOf_spec members
  omega

theorem Step.sizeOf_into_lt (h : step.into document = some next) :
    sizeOf next < sizeOf document := by
  cases step with
  | key name =>
      cases document with
      | obj members => exact sizeOf_get?_lt h
      | null => cases h
      | bool => cases h
      | num => cases h
      | str => cases h
      | arr => cases h
  | index i =>
      cases document with
      | arr items =>
          have hitem := List.sizeOf_lt_of_mem (List.mem_of_getElem? h)
          have harr : sizeOf (Json.arr items) = 1 + sizeOf items := Json.arr.sizeOf_spec items
          omega
      | null => cases h
      | bool => cases h
      | num => cases h
      | str => cases h
      | obj => cases h

theorem sizeOf_follow_le (h : follow document path = some last) :
    sizeOf last ≤ sizeOf document := by
  induction path generalizing document with
  | nil => exact Nat.le_of_eq (congrArg sizeOf (Option.some.inj h).symm)
  | cons step path ih =>
      obtain ⟨next, hnext, hlast⟩ := Option.bind_eq_some_iff.mp h
      exact Nat.le_of_lt (Nat.lt_of_le_of_lt (ih hlast) (Step.sizeOf_into_lt hnext))

theorem ne_of_follow (h : follow document (step :: path) = some last) : last ≠ document := by
  rintro rfl
  obtain ⟨next, hnext, hlast⟩ := Option.bind_eq_some_iff.mp h
  exact absurd (sizeOf_follow_le hlast) (Nat.not_le.mpr (Step.sizeOf_into_lt hnext))

theorem follow_null_cons : follow .null (step :: path) = none := by
  cases step <;> rfl

end MindscapeLocalCore.Library.JsonPaths
