import Mathlib.Data.String.Basic

/-! The accesses of jsoncpp on documents the services did not write. -/

namespace IntellVoice.Utils

/-- A parsed document; an access that throws is `none`. -/
inductive Json where
  | null
  | bool (b : Bool)
  | number (text : String)
  | str (s : String)
  | arr (items : List Json)
  | obj (fields : List (String × Json))

namespace Json

def isArray : Json → Bool
  | .arr _ => true
  | _ => false

def elements : Json → List Json
  | .arr items => items
  | .obj fields => fields.map Prod.snd
  | _ => []

def member (name : String) : Json → Option Json
  | .obj fields => some (((fields.find? fun f => f.1 == name).map Prod.snd).getD .null)
  | .null => some .null
  | _ => none

def asString : Json → Option String
  | .null => some ""
  | .bool b => some (if b then "true" else "false")
  | .number text => some text
  | .str s => some s
  | .arr _ => none
  | .obj _ => none

def isMember (name : String) : Json → Option Bool
  | .obj fields => some (fields.any fun f => f.1 == name)
  | .null => some false
  | _ => none

def asBool : Json → Option Bool
  | .null => some false
  | .bool b => some b
  -- a number is zero when its mantissa has no other digit
  | .number text => some ((text.toList.takeWhile (· ∉ ['e', 'E'])).any (· ∈ "123456789".toList))
  | _ => none

def lookup (name : String) (j : Json) : Option (Option Json) := do
  if ← j.isMember name then return some (← j.member name) else return none

def HasMembers (j : Json) : Prop := j = .null ∨ ∃ fields, j = .obj fields

def field? (name : String) : Json → Option Json
  | .obj fields => (fields.find? fun f => f.1 == name).map Prod.snd
  | _ => none

variable {j : Json}

lemma lookup_eq (h : j.HasMembers) (name : String) : j.lookup name = some (j.field? name) := by
  rcases h with rfl | ⟨fields, rfl⟩
  · rfl
  have hany : (Json.obj fields).isMember name =
      some (fields.find? fun f => f.1 == name).isSome := by
    rw [isMember, List.isSome_find?]
  rw [lookup, hany]
  simp only [member, field?]
  cases fields.find? fun f => f.1 == name <;> rfl

lemma lookup_eq_none (h : ¬ j.HasMembers) (name : String) : j.lookup name = none := by
  cases j with
  | obj fields => exact absurd (Or.inr ⟨fields, rfl⟩) h
  | null => exact absurd (Or.inl rfl) h
  | _ => rfl

@[simp] lemma lookup_obj (fields : List (String × Json)) (name : String) :
    (Json.obj fields).lookup name = some ((Json.obj fields).field? name) :=
  lookup_eq (.inr ⟨fields, rfl⟩) name

lemma member_eq (h : j.HasMembers) (name : String) :
    j.member name = some ((j.field? name).getD .null) := by
  rcases h with rfl | ⟨fields, rfl⟩ <;> rfl

lemma hasMembers_of_member {name : String} (h : (j.member name).isSome) : j.HasMembers := by
  cases j with
  | obj fields => exact Or.inr ⟨fields, rfl⟩
  | null => exact Or.inl rfl
  | _ => simp [member] at h

end Json
end IntellVoice.Utils
