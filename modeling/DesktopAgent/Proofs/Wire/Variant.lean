import DesktopAgent.Proofs.Wire.Record
import DesktopAgent.Wire.Variant

/-!
What a reader of tagged values has found when it succeeds.

The tag named one of the variants, and what that variant carries was read from the members beside
the tag, among which every other key has the value that it has in the whole object.
-/

namespace DesktopAgent.Wire.Variant

variable {α : Type} {variants : List (Variant α)}

theorem mem_of_named
    {name : String} {variant : Variant α} (named : named? variants name = .ok variant) :
    variant ∈ variants ∧ variant.name = name := by
  unfold named? at named
  cases found : variants.find? fun variant => variant.name = name with
  | none =>
      rw [found] at named
      cases named
  | some first =>
      rw [found] at named
      cases named
      have isNamed := List.find?_some found
      simp only [decide_eq_true_eq] at isNamed
      exact ⟨List.mem_of_find?_eq_some found, isNamed⟩

theorem lookup_withoutTag
    {name tag : String} (other : name ≠ tag) (members : List (String × Json)) :
    Json.lookup name (withoutTag tag members) = Json.lookup name members := by
  induction members with
  | nil => rfl
  | cons member rest inductionHypothesis =>
      obtain ⟨key, value⟩ := member
      by_cases isTag : key = tag
      · have notName : key ≠ name := fun isName => other (isName ▸ isTag)
        have dropped : withoutTag tag ((key, value) :: rest) = withoutTag tag rest := by
          simp [withoutTag, isTag]
        rw [dropped, inductionHypothesis, Json.lookup, if_neg notName]
      · have kept :
            withoutTag tag ((key, value) :: rest) = (key, value) :: withoutTag tag rest := by
          simp [withoutTag, isTag]
        rw [kept, Json.lookup, Json.lookup, inductionHypothesis]

/-- An object whose tag is a word was read as the variant of that word. -/
theorem exists_of_tagged_object
    {type tag word : String} {source : Source} {members : List (String × Json)} {found : α}
    (isNamed : Json.lookup tag members = some (.string word))
    (read : tagged type tag variants source (.object members) = .ok found) :
    ∃ variant ∈ variants, variant.name = word ∧
      variant.readTagged type (.object (withoutTag tag members)) = .ok found := by
  simp only [tagged, isNamed] at read
  obtain ⟨variant, identified, reads⟩ := exists_of_bind_eq_ok read
  obtain ⟨member, isWord⟩ := mem_of_named identified
  exact ⟨variant, member, isWord, reads⟩

end DesktopAgent.Wire.Variant
