import StoreTrial.Text.Outline

/-! # Types with an outline

Types whose values can be shown in one line, so that a check can say what it
expected and what it got.
-/

namespace StoreTrial

/-- A type whose values have a text in one line. -/
class Outlined (α : Type) where
  outline : α → String

export Outlined (outline)

instance : Outlined Int := ⟨toString⟩

instance : Outlined Nat := ⟨toString⟩

instance : Outlined UInt8 := ⟨fun byte => toString byte.toNat⟩

instance : Outlined Bool := ⟨Text.outlineBool⟩

instance : Outlined Unit := ⟨fun _ => "()"⟩

instance : Outlined String := ⟨Text.quote⟩

instance {α : Type} [Outlined α] : Outlined (Option α) :=
  ⟨fun value => Text.outlineOption (value.map outline)⟩

instance {α : Type} [Outlined α] : Outlined (List α) :=
  ⟨fun values => Text.outlineList (values.map outline)⟩

end StoreTrial
