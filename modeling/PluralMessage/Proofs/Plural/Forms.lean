import Mathlib.Data.Set.Image
import PluralMessage.Plural.Locale

/-!
The forms that a locale produces. A family never goes past the number of forms that it declares, and
it has a small count for each of them; so the number that a locale declares is exact, whether the
locale has a plural rule or not.
-/
namespace PluralMessage.Plural

namespace Family

/-- A count for each form of a family, in the order of the forms. -/
def samples : Family → List Int
  | default | none => [0]
  | oneOther | macedonian => [1, 0]
  | zeroOneOther => [0, 2]
  | slavic | czech | irish | lithuanian | polish => [1, 2, 0]
  | slovenian => [1, 2, 3, 0]
  | maltese => [1, 0, 11, 20]
  | latvian => [0, 1, 2]
  | welsh => [1, 2, 8, 0]
  | romanian => [1, 0, 20]
  | arabic => [0, 1, 2, 3, 11, 100]

theorem map_form_samples (family : Family) :
    family.samples.map family.form = List.range family.forms := by
  cases family <;> decide

theorem bounds_of_mem_samples {family : Family} {count : Int} (h : count ∈ family.samples) :
    0 ≤ count ∧ count ≤ 100 := by
  have hall : ∀ count ∈ family.samples, 0 ≤ count ∧ count ≤ 100 := by
    cases family <;> decide
  exact hall count h

theorem exists_form_eq {family : Family} {i : Nat} (h : i < family.forms) :
    ∃ count : Int, 0 ≤ count ∧ count ≤ 100 ∧ family.form count = i := by
  have hmem : i ∈ family.samples.map family.form := by
    rw [map_form_samples]
    exact List.mem_range.2 h
  obtain ⟨count, hcount, hform⟩ := List.mem_map.1 hmem
  obtain ⟨hlow, hhigh⟩ := bounds_of_mem_samples hcount
  exact ⟨count, hlow, hhigh, hform⟩

end Family

theorem form_lt_forms (count : Int) (locale : String) : form count locale < forms locale :=
  Family.form_lt_forms _ count

theorem exists_form_eq {locale : String} {i : Nat} (h : i < forms locale) :
    ∃ count : Int, 0 ≤ count ∧ count ≤ 100 ∧ form count locale = i :=
  Family.exists_form_eq h

/-- The forms of all counts, negative ones included, are those that the locale declares, and the
counts up to 100 have each of them. -/
theorem range_form_eq_image (locale : String) :
    Set.range (form · locale) = {i | i < forms locale} ∧
      (form · locale) '' {count | 0 ≤ count ∧ count ≤ 100} = {i | i < forms locale} := by
  have hrange : Set.range (form · locale) ⊆ {i | i < forms locale} := by
    rintro _ ⟨count, rfl⟩
    exact form_lt_forms count locale
  have hsmall : {i | i < forms locale} ⊆
      (form · locale) '' {count | 0 ≤ count ∧ count ≤ 100} := by
    intro i hi
    obtain ⟨count, hlow, hhigh, hform⟩ := exists_form_eq hi
    exact ⟨count, ⟨hlow, hhigh⟩, hform⟩
  have himage : (form · locale) '' {count | 0 ≤ count ∧ count ≤ 100} ⊆
      Set.range (form · locale) :=
    Set.image_subset_range _ _
  exact ⟨hrange.antisymm (hsmall.trans himage), (himage.trans hrange).antisymm hsmall⟩

end PluralMessage.Plural
