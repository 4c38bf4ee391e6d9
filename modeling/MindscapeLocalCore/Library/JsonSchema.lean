import MindscapeLocalCore.Library.Hex
import MindscapeLocalCore.Library.Json

/-!
Validation of JSON documents against the keywords of JSON Schema, draft
2020-12.  The keyword `format` is an annotation there and checks nothing.
-/

namespace MindscapeLocalCore.Library.JsonSchema

open Hex Json

/-! ## Anchored patterns -/

/-- Between `least` and `most` characters of one class. -/
structure Piece where
  accepts : Char → Bool
  least : Nat
  most : Option Nat

/-- A pattern `^…$`: alternatives, each a sequence of pieces. -/
abbrev Pattern := List (List Piece)

def matchRun (accepts : Char → Bool) (rest : List Char → Bool) :
    Nat → Option Nat → List Char → Bool
  | least, _, [] => least == 0 && rest []
  | least, most, c :: cs =>
      (least == 0 && rest (c :: cs)) ||
        (most != some 0 && accepts c &&
          matchRun accepts rest (least - 1) (most.map Nat.pred) cs)

/-- The end of the text, or the newline that `$` lets stand there. -/
def atEnd (cs : List Char) : Bool := cs == [] || cs == ['\n']

def matchPieces : List Piece → List Char → Bool
  | [], cs => atEnd cs
  | p :: ps, cs => matchRun p.accepts (matchPieces ps) p.least p.most cs

def Pattern.matches (p : Pattern) (s : String) : Bool :=
  p.any fun pieces => matchPieces pieces s.toList

theorem matchRun_exactly (accepts : Char → Bool) (rest : List Char → Bool)
    (cs : List Char) (h : ∀ c ∈ cs, accepts c = true) :
    matchRun accepts rest cs.length (some cs.length) cs = rest [] := by
  induction cs with
  | nil => simp [matchRun]
  | cons c cs ih =>
      have hc := h c (by simp)
      have hcs := ih fun d hd => h d (by simp [hd])
      simp [matchRun, hc, hcs]

/-- Exactly `n` characters of a class. -/
def exactly (n : Nat) (accepts : Char → Bool) : Piece :=
  ⟨accepts, n, some n⟩

/-- The text `s` itself. -/
def literal (s : String) : List Piece :=
  s.toList.map fun c => exactly 1 (· == c)

/-- The pattern `^[a-f0-9]{n}$`. -/
def hexPattern (n : Nat) : Pattern := [[exactly n isHexDigit]]

theorem hexPattern_matches (width n : Nat) :
    (hexPattern width).matches (String.ofList (hexText width n)) = true := by
  have hrun := matchRun_exactly isHexDigit (matchPieces []) (hexText width n)
    fun c hc => isHexDigit_of_mem_hexText hc
  rw [length_hexText] at hrun
  change (matchRun isHexDigit (matchPieces []) width (some width)
    (String.ofList (hexText width n)).toList || false) = true
  rw [String.toList_ofList, hrun]
  rfl

/-! ## Keywords -/

inductive JsonType where
  | null | boolean | integer | number | string | array | object
  deriving DecidableEq

def JsonType.admits : JsonType → Json → Bool
  | .null, .null => true
  | .boolean, .bool _ => true
  | .integer, .num value => value.isInteger
  | .number, .num _ => true
  | .string, .str _ => true
  | .array, .arr _ => true
  | .object, .obj _ => true
  | _, _ => false

/-- Equality with a scalar of `const` or `enum`; a boolean is no number here. -/
def scalarEq : Json → Json → Bool
  | .null, .null => true
  | .bool a, .bool b => a == b
  | .num a, .num b => a.valueEq b
  | .str a, .str b => a == b
  | _, _ => false

def distinctItems : List Json → Bool
  | [] => true
  | item :: items => !items.any (Json.pyEq item) && distinctItems items

inductive Schema where
  | allOf (parts : List Schema)
  | oneOf (parts : List Schema)
  | not (part : Schema)
  | ifThenElse (condition consequence alternative : Schema)
  | type (allowed : List JsonType)
  | const (value : Json)
  | enum (values : List Json)
  | minLength (n : Nat)
  | maxLength (n : Nat)
  | pattern (p : Pattern)
  | minimum (n : Number)
  | maximum (n : Number)
  | exclusiveMinimum (n : Number)
  | required (keys : List String)
  | property (key : String) (schema : Schema)
  | onlyKeys (keys : List String)
  | items (schema : Schema)
  | minItems (n : Nat)
  | maxItems (n : Nat)
  | uniqueItems

def onString (p : String → Bool) : Json → Bool
  | .str value => p value
  | _ => true

def onNumber (p : Number → Bool) : Json → Bool
  | .num value => p value
  | _ => true

def onArray (p : List Json → Bool) : Json → Bool
  | .arr items => p items
  | _ => true

def onObject (p : Dict → Bool) : Json → Bool
  | .obj members => p members
  | _ => true

mutual

def Schema.valid : Schema → Json → Bool
  | .allOf parts, j => allValid parts j
  | .oneOf parts, j => countValid parts j == 1
  | .not part, j => !part.valid j
  | .ifThenElse condition consequence alternative, j =>
      if condition.valid j then consequence.valid j else alternative.valid j
  | .type allowed, j => allowed.any fun t => t.admits j
  | .const value, j => scalarEq value j
  | .enum values, j => values.any fun value => scalarEq value j
  | .minLength n, j => onString (fun s => decide (n ≤ s.length)) j
  | .maxLength n, j => onString (fun s => decide (s.length ≤ n)) j
  | .pattern p, j => onString p.matches j
  | .minimum n, j => onNumber (fun m => n.valueLe m) j
  | .maximum n, j => onNumber (fun m => m.valueLe n) j
  | .exclusiveMinimum n, j => onNumber (fun m => !m.valueLe n) j
  | .required keys, j => onObject (fun d => keys.all d.has) j
  | .property key schema, j =>
      onObject (fun d =>
        match d.get? key with
        | some value => schema.valid value
        | none => true) j
  | .onlyKeys keys, j => onObject (fun d => d.all fun kv => keys.contains kv.1) j
  | .items schema, j => onArray (fun l => l.all fun item => schema.valid item) j
  | .minItems n, j => onArray (fun l => decide (n ≤ l.length)) j
  | .maxItems n, j => onArray (fun l => decide (l.length ≤ n)) j
  | .uniqueItems, j => onArray distinctItems j

def allValid : List Schema → Json → Bool
  | [], _ => true
  | part :: parts, j => part.valid j && allValid parts j

def countValid : List Schema → Json → Nat
  | [], _ => 0
  | part :: parts, j => (if part.valid j then 1 else 0) + countValid parts j

end

theorem allValid_eq_all (parts : List Schema) (j : Json) :
    allValid parts j = parts.all fun part => part.valid j := by
  induction parts with
  | nil => rfl
  | cons part parts ih => simp [allValid, ih]

def object (mandatory : List String) (properties : List (String × Schema)) :
    Schema :=
  .allOf (.type [.object] :: .onlyKeys (properties.map Prod.fst) ::
    .required mandatory :: properties.map fun p => .property p.1 p.2)

theorem valid_object_iff {mandatory : List String} {properties : List (String × Schema)}
    {d : Dict} :
    (object mandatory properties).valid (.obj d) = true ↔
      (∀ k v, d.get? k = some v → k ∈ properties.map Prod.fst) ∧
      (∀ k ∈ mandatory, (d.get? k).isSome = true) ∧
      ∀ p ∈ properties, ∀ v, d.get? p.1 = some v → p.2.valid v = true := by
  have hkeys : (d.all fun kv => (properties.map Prod.fst).contains kv.1) = true ↔
      ∀ k v, d.get? k = some v → k ∈ properties.map Prod.fst := by
    simp only [List.all_eq_true, List.contains_iff_mem]
    constructor
    · intro h k v hget
      exact h (k, v) (Dict.mem_of_get? hget)
    · rintro h ⟨k, v⟩ hmem
      obtain ⟨v', hget⟩ := Dict.get?_of_mem hmem
      exact h k v' hget
  have hproperty : ∀ p : String × Schema,
      Schema.valid (.property p.1 p.2) (.obj d) = true ↔
        ∀ v, d.get? p.1 = some v → p.2.valid v = true := by
    intro p
    simp only [Schema.valid, onObject]
    cases d.get? p.1 <;> simp
  simp only [object, Schema.valid, allValid, allValid_eq_all, Bool.and_eq_true, onObject,
    hkeys, List.all_map, List.any_cons, List.any_nil, JsonType.admits, Bool.or_false,
    true_and, List.all_eq_true, Function.comp_apply]
  refine and_congr_right fun _ => and_congr Iff.rfl ?_
  exact forall₂_congr fun p _ => hproperty p

theorem eq_of_lookup {properties : List (String × Schema)} {p : String × Schema}
    {schema : Schema} (hnodup : (properties.map Prod.fst).Nodup) (hp : p ∈ properties)
    (h : properties.lookup p.1 = some schema) : schema = p.2 := by
  induction properties with
  | nil => cases hp
  | cons first rest ih =>
      simp only [List.map_cons, List.nodup_cons] at hnodup
      rw [List.lookup_cons] at h
      rcases List.mem_cons.mp hp with rfl | hrest
      · simpa using h.symm
      · have hne : (p.1 == first.1) = false := by
          simp only [beq_eq_false_iff_ne, ne_eq]
          exact fun heq => hnodup.1 (heq ▸ List.mem_map_of_mem hrest)
        rw [hne] at h
        exact ih hnodup.2 hrest h

theorem valid_object_of_members {mandatory : List String}
    {properties : List (String × Schema)} {d : Dict}
    (hnodup : (properties.map Prod.fst).Nodup)
    (hmandatory : ∀ k ∈ mandatory, k ∈ d.map Prod.fst)
    (hmembers : ∀ kv ∈ d, ∃ schema, properties.lookup kv.1 = some schema ∧
      schema.valid kv.2 = true) :
    (object mandatory properties).valid (.obj d) = true := by
  refine valid_object_iff.mpr ⟨fun k v hget => ?_, fun k hk => ?_, fun p hp v hget => ?_⟩
  · obtain ⟨schema, hlookup, -⟩ := hmembers _ (Dict.mem_of_get? hget)
    obtain ⟨before, after, hsplit, -⟩ := List.lookup_eq_some_iff.mp hlookup
    simp [hsplit]
  · obtain ⟨⟨k', v⟩, hmem, rfl⟩ := List.mem_map.mp (hmandatory k hk)
    obtain ⟨v', hget⟩ := Dict.get?_of_mem hmem
    simp [hget]
  · obtain ⟨schema, hlookup, hvalid⟩ := hmembers _ (Dict.mem_of_get? hget)
    exact eq_of_lookup hnodup hp hlookup ▸ hvalid

theorem valid_object_override {mandatory : List String}
    {properties : List (String × Schema)} {base d : Dict}
    (hbase : (object mandatory properties).valid (.obj base) = true)
    (h : ∀ k, d.get? k = base.get? k ∨ ∃ v, d.get? k = some v ∧
      k ∈ properties.map Prod.fst ∧
        ∀ schema, (k, schema) ∈ properties → schema.valid v = true) :
    (object mandatory properties).valid (.obj d) = true := by
  obtain ⟨hkeys, hmandatory, hproperties⟩ := valid_object_iff.mp hbase
  refine valid_object_iff.mpr ⟨fun k v hget => ?_, fun k hk => ?_, fun p hp v hget => ?_⟩
  · rcases h k with hsame | ⟨_, -, hmem, -⟩
    · exact hkeys k v (hsame ▸ hget)
    · exact hmem
  · rcases h k with hsame | ⟨v, hv, -, -⟩
    · rw [hsame]
      exact hmandatory k hk
    · simp [hv]
  · rcases h p.1 with hsame | ⟨v', hv', -, hvalid⟩
    · exact hproperties p hp v (hsame ▸ hget)
    · cases hget.symm.trans hv'
      exact hvalid p.2 hp

theorem valid_object_set {mandatory : List String} {properties : List (String × Schema)}
    {d : Dict} (hnodup : (properties.map Prod.fst).Nodup)
    (hd : (object mandatory properties).valid (.obj d) = true) {k : String} {v : Json}
    {schema : Schema} (hlookup : properties.lookup k = some schema)
    (hv : schema.valid v = true) :
    (object mandatory properties).valid (.obj (d.set k v)) = true := by
  refine valid_object_override hd fun k' => ?_
  by_cases hk : k' = k
  · subst hk
    refine .inr ⟨v, Dict.get?_set_self _ _ _, ?_, fun schema' hmem => ?_⟩
    · obtain ⟨before, after, hsplit, -⟩ := List.lookup_eq_some_iff.mp hlookup
      rw [hsplit]
      simp
    · have hsame : schema = schema' := eq_of_lookup hnodup hmem hlookup
      exact hsame ▸ hv
  · exact .inl (Dict.get?_set_of_ne _ _ hk)

theorem valid_object_update {mandatory : List String} {properties : List (String × Schema)}
    (hnodup : (properties.map Prod.fst).Nodup) {d : Dict}
    (hd : (object mandatory properties).valid (.obj d) = true) {new : Dict}
    (hnew : ∀ kv ∈ new, ∃ schema, properties.lookup kv.1 = some schema ∧
      schema.valid kv.2 = true) :
    (object mandatory properties).valid (.obj (d.update new)) = true := by
  unfold Dict.update
  induction new generalizing d with
  | nil => exact hd
  | cons kv rest ih =>
      obtain ⟨schema, hlookup, hv⟩ := hnew kv (by simp)
      exact ih (valid_object_set hnodup hd hlookup hv) fun kv' hkv' => hnew kv' (by simp [hkv'])

/-- A string of `least` to `most` characters. -/
def text (least most : Nat) : Schema :=
  .allOf [.type [.string], .minLength least, .maxLength most]

def textMatching (p : Pattern) : Schema :=
  .allOf [.type [.string], .pattern p]

def oneOfTexts (values : List String) : Schema :=
  .enum (values.map Json.str)

end MindscapeLocalCore.Library.JsonSchema
