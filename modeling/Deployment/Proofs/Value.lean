import Deployment.Value.Basic

/-!
# Proofs/Value — values under their tags

The readers of texts and mappings look through tags (`asString?_eq_some_iff`,
`asMapping?_eq_some_iff`), and keys of mappings are found without (`same_string_iff`).  A scalar is
what has a text and no tag (`exists_scalarText?_iff`).
-/

namespace Deployment.Value

/-- A value without its tags. -/
def untagged : Value → Value
  | tagged _ v => v.untagged
  | v => v

/-- **Scalars without a tag**, null among them. -/
inductive IsScalar : Value → Prop
  | null : IsScalar null
  | bool (b : Bool) : IsScalar (bool b)
  | number (n : Number) : IsScalar (number n)
  | string (s : String) : IsScalar (string s)

/-- **Whether a value is a list**, null standing for none. -/
inductive IsList : Value → Prop
  | null : IsList null
  | sequence (items : List Value) : IsList (sequence items)

/-- A value reads as a string when it is one behind its tags. -/
theorem asString?_eq_some_iff {s : String} :
    ∀ {v : Value}, v.asString? = some s ↔ v.untagged = string s
  | tagged tag v => by
    rw [asString?, untagged]
    exact asString?_eq_some_iff
  | string t => by
    change some t = some s ↔ string t = string s
    rw [Option.some.injEq, string.injEq]
  | null | bool _ | number _ | sequence _ | mapping _ => ⟨nofun, nofun⟩

/-- It reads as a mapping when it is one behind its tags. -/
theorem asMapping?_eq_some_iff {es : List (Value × Value)} :
    ∀ {v : Value}, v.asMapping? = some es ↔ v.untagged = mapping es
  | tagged tag v => by
    rw [asMapping?, untagged]
    exact asMapping?_eq_some_iff
  | mapping fs => by
    change some fs = some es ↔ mapping fs = mapping es
    rw [Option.some.injEq, mapping.injEq]
  | null | bool _ | number _ | sequence _ | string _ => ⟨nofun, nofun⟩

/-- A scalar is what has a text. -/
theorem exists_scalarText?_iff {v : Value} : (∃ text, v.scalarText? = some text) ↔ v.IsScalar := by
  cases v with
  | null => exact ⟨fun _ => .null, fun _ => ⟨_, rfl⟩⟩
  | bool b => exact ⟨fun _ => .bool b, fun _ => ⟨_, rfl⟩⟩
  | number n => exact ⟨fun _ => .number n, fun _ => ⟨_, rfl⟩⟩
  | string s => exact ⟨fun _ => .string s, fun _ => ⟨_, rfl⟩⟩
  | _ => exact ⟨nofun, nofun⟩

/-- A text is the same key as an equal text and as nothing else. -/
theorem same_string_iff {k : Value} {s : String} : same k (string s) = true ↔ k = string s := by
  cases k with
  | string t => rw [same, beq_iff_eq, string.injEq]
  | _ => exact ⟨nofun, nofun⟩

/-- A lookup finds the string itself, without a tag. -/
theorem string_same_iff {k : Value} {s : String} : same (string s) k = true ↔ k = string s := by
  cases k with
  | string t => rw [same, beq_iff_eq, string.injEq, eq_comm]
  | _ => exact ⟨nofun, nofun⟩

end Deployment.Value
