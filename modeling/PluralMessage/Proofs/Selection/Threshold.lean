import PluralMessage.Proofs.Selection.Resolution
import PluralMessage.Proofs.Template.Splitting

/-!
Threshold templates. Cuts in ascending order divide the counts into ranges, and each cut belongs to
the range on its left or to the one on its right. Every count lies in exactly one of the ranges, so
of a template with one text for each range it is always the text of that range that is chosen.
-/
namespace PluralMessage

inductive Side
  | left
  | right
deriving DecidableEq, Repr

/-- A number at which one range ends and the next one starts; it belongs to one of the two. -/
structure Cut where
  place : Int
  owner : Side
deriving DecidableEq, Repr

namespace Cut

/-- The bracket that both ranges have at the cut: it includes the number for its owner only. -/
def bracket (cut : Cut) : Bracket :=
  match cut.owner with
  | .left => .right
  | .right => .left

/-- The count lies on the right of the cut. -/
def Passed (count : Int) (cut : Cut) : Prop :=
  cut.place < count ∨ cut.place = count ∧ cut.owner = .right

instance (count : Int) : DecidablePred (Passed count) :=
  fun cut =>
    inferInstanceAs (Decidable (cut.place < count ∨ cut.place = count ∧ cut.owner = .right))

/-- How many cuts the count has passed. -/
def passed (count : Int) (cuts : List Cut) : Nat :=
  cuts.countP fun cut => decide (cut.Passed count)

/-- The ranges between the cuts, the first one from `lower` on and the last one without an end. -/
def ranges (opening : Bracket) (lower : Option Int) (closing : Bracket) : List Cut → List Interval
  | [] => [.range opening lower .posInf closing]
  | cut :: cuts =>
      .range opening lower (.finite cut.place) cut.bracket ::
        ranges cut.bracket (some cut.place) closing cuts

theorem Passed.mono {count : Int} {a b : Cut} (hab : a.place < b.place) (h : b.Passed count) :
    a.Passed count := by
  left
  rcases h with h | ⟨h, -⟩ <;> omega

theorem aboveLower_iff_passed {count : Int} {cut : Cut} :
    Interval.aboveLower cut.bracket (some cut.place) count = true ↔ cut.Passed count := by
  obtain ⟨place, owner⟩ := cut
  rw [Interval.aboveLower_some]
  cases owner <;> simp [bracket, Passed, Bracket.includesLower]

theorem aboveLower_of_not_passed {count : Int} {cut : Cut} (h : ¬ cut.Passed count) :
    Interval.aboveLower cut.bracket (some cut.place) count = false := by
  rw [Bool.eq_false_iff, ne_eq, aboveLower_iff_passed]
  exact h

theorem belowUpper_iff_not_passed {count : Int} {cut : Cut} :
    Interval.belowUpper (.finite cut.place) cut.bracket count = true ↔ ¬ cut.Passed count := by
  obtain ⟨place, owner⟩ := cut
  rw [Interval.belowUpper_finite]
  cases owner <;> simp [bracket, Passed, Bracket.includesUpper] <;> omega

section
variable {opening closing : Bracket} {lower : Option Int} {cuts : List Cut} {count : Int}

theorem length_ranges : (ranges opening lower closing cuts).length = cuts.length + 1 := by
  induction cuts generalizing opening lower with
  | nil => rfl
  | cons cut cuts ih => rw [ranges, List.length_cons, ih, List.length_cons]

theorem short_ranges (hlower : ∀ n, lower = some n → Decimal.Short n)
    (hcuts : ∀ cut ∈ cuts, Decimal.Short cut.place) :
    ∀ range ∈ ranges opening lower closing cuts, range.Short := by
  induction cuts generalizing opening lower with
  | nil =>
      intro range h
      obtain rfl := List.mem_singleton.1 h
      exact ⟨hlower, by rintro n ⟨⟩⟩
  | cons cut cuts ih =>
      have hcut : Decimal.Short cut.place := hcuts cut (by simp)
      intro range h
      rcases List.mem_cons.1 h with rfl | h
      · exact ⟨hlower, by rintro n ⟨⟩; exact hcut⟩
      · exact ih (by rintro n ⟨⟩; exact hcut) (fun c hc => hcuts c (by simp [hc])) range h

/-- A count that is on the left of them all lies in none of the ranges. -/
theorem ranges_exclude (habove : Interval.aboveLower opening lower count = false)
    (hcuts : ∀ cut ∈ cuts, ¬ cut.Passed count) :
    ∀ range ∈ ranges opening lower closing cuts, range.contains count = false := by
  induction cuts generalizing opening lower with
  | nil =>
      intro range h
      obtain rfl := List.mem_singleton.1 h
      simp [Interval.contains, habove]
  | cons cut cuts ih =>
      have hcut := aboveLower_of_not_passed (hcuts cut (by simp))
      intro range h
      rcases List.mem_cons.1 h with rfl | h
      · simp [Interval.contains, habove]
      · exact ih hcut (fun c hc => hcuts c (by simp [hc])) range h

/-- Of the ranges exactly the one behind the cuts that the count has passed contains it. -/
theorem contains_ranges_iff (hsorted : cuts.Pairwise fun a b => a.place < b.place)
    (habove : Interval.aboveLower opening lower count = true) {i : Nat} {range : Interval}
    (hi : (ranges opening lower closing cuts)[i]? = some range) :
    range.contains count = true ↔ i = passed count cuts := by
  induction cuts generalizing opening lower i with
  | nil =>
      match i, hi with
      | 0, hi =>
          cases hi
          simp [Interval.contains_range, habove, Interval.belowUpper, passed]
  | cons cut cuts ih =>
      obtain ⟨hfirst, hsorted⟩ := List.pairwise_cons.1 hsorted
      by_cases hcut : cut.Passed count
      · -- The count lies behind the first range, in one of the others.
        have hindex : passed count (cut :: cuts) = passed count cuts + 1 := by
          simp [passed, hcut]
        rw [hindex]
        cases i with
        | zero =>
            cases hi
            simp [Interval.contains_range, belowUpper_iff_not_passed, hcut]
        | succ i =>
            rw [ih hsorted (aboveLower_iff_passed.2 hcut) hi, Nat.succ_inj]
      · have hrest : ∀ c ∈ cuts, ¬ c.Passed count := fun c hc hp => hcut (hp.mono (hfirst c hc))
        have hindex : passed count (cut :: cuts) = 0 := by
          rw [passed, List.countP_eq_zero]
          simpa using ⟨hcut, hrest⟩
        rw [hindex]
        cases i with
        | zero =>
            cases hi
            simp [Interval.contains_range, habove, belowUpper_iff_not_passed, hcut]
        | succ i =>
            have hbelow := aboveLower_of_not_passed hcut
            have hrange := ranges_exclude hbelow hrest range (List.mem_of_getElem? hi)
            simp [hrange]

/-- Without a lower end the ranges divide all counts among them. -/
theorem contains_iff_eq_passed (hsorted : cuts.Pairwise fun a b => a.place < b.place) {i : Nat}
    {range : Interval} (hi : (ranges opening none closing cuts)[i]? = some range) :
    range.contains count = true ↔ i = passed count cuts :=
  contains_ranges_iff hsorted rfl hi

theorem passed_le_length : passed count cuts ≤ cuts.length :=
  List.countP_le_length

end
end Cut

namespace Template
open PluralMessage.Interval (Blanks noBlanks)

/-- A range and its text, as a piece of a template. -/
def band (range : Interval) (text : List Char) : List Char :=
  range.print ++ ' ' :: text

/-- The template with the ranges between the cuts, each in front of its text. -/
def thresholds (opening closing : Bracket) (cuts : List Cut) (texts : List (List Char)) :
    List Char :=
  join (((Cut.ranges opening none closing cuts).zip texts).map fun (range, text) => band range text)

def thresholdVariants (opening closing : Bracket) (cuts : List Cut) (texts : List (List Char)) :
    List Variant :=
  ((Cut.ranges opening none closing cuts).zip texts).map fun (range, text) =>
    ⟨text, some range.print⟩

theorem separator_notMem_band {range : Interval} {text : List Char} (h : separator ∉ text) :
    separator ∉ band range text := by
  rw [band, List.mem_append, List.mem_cons]
  rintro (hprint | hspace | htext)
  · exact Draft.separator_notMem_print range hprint
  · exact absurd hspace (by decide)
  · exact h htext

theorem readPiece_band {range : Interval} {text : List Char} (hrange : range.Short)
    (hsep : separator ∉ text) (htrim : Text.Trimmed text) :
    readPiece (band range text) = .ok ⟨text, some range.print⟩ := by
  let space : Blanks := ⟨[' '], List.forall_mem_singleton.2 rfl⟩
  have hdraft : (Draft.ruled range space text).WellFormed :=
    ⟨hrange, List.cons_ne_nil _ _, hsep, htrim⟩
  cases text with
  | nil =>
      -- Without a text the space behind the range is at the end of the piece.
      have hread := Draft.readPiece_padded hdraft noBlanks space
      simpa [Draft.body, Draft.variant, band, noBlanks, space] using hread
  | cons c text =>
      have hread := Draft.readPiece_padded hdraft noBlanks noBlanks
      simpa [Draft.body, Draft.variant, band, noBlanks, space] using hread

section
variable {opening closing : Bracket} {cuts : List Cut} {texts : List (List Char)}

theorem length_zip_ranges (hlength : texts.length = cuts.length + 1) :
    ((Cut.ranges opening none closing cuts).zip texts).length = cuts.length + 1 := by
  rw [List.length_zip, Cut.length_ranges, hlength, Nat.min_self]

theorem short_of_mem_zip (hshort : ∀ cut ∈ cuts, Decimal.Short cut.place)
    {entry : Interval × List Char}
    (h : entry ∈ (Cut.ranges opening none closing cuts).zip texts) : entry.1.Short :=
  Cut.short_ranges (by rintro n ⟨⟩) hshort entry.1 (List.of_mem_zip h).1

theorem separator_mem_thresholds (hcuts : cuts ≠ []) (hlength : texts.length = cuts.length + 1) :
    separator ∈ thresholds opening closing cuts texts := by
  have hpos := List.length_pos_of_ne_nil hcuts
  apply separator_mem_join
  rw [List.length_map, length_zip_ranges hlength]
  omega

theorem split_thresholds (hcuts : cuts ≠ []) (hlength : texts.length = cuts.length + 1)
    (hshort : ∀ cut ∈ cuts, Decimal.Short cut.place)
    (htexts : ∀ text ∈ texts, separator ∉ text ∧ Text.Trimmed text) :
    split (thresholds opening closing cuts texts) =
      .ok (thresholdVariants opening closing cuts texts) := by
  have hpos := List.length_pos_of_ne_nil hcuts
  apply split_join_map
  · rw [length_zip_ranges hlength]
    omega
  · rintro ⟨range, text⟩ hmem
    exact separator_notMem_band (htexts text (List.of_mem_zip hmem).2).1
  · rintro ⟨range, text⟩ hmem
    obtain ⟨hsep, htrim⟩ := htexts text (List.of_mem_zip hmem).2
    exact readPiece_band (short_of_mem_zip hshort hmem) hsep htrim

/-- The search for a rule comes to the variant of the range that contains the count. -/
theorem reaches_threshold (hshort : ∀ cut ∈ cuts, Decimal.Short cut.place)
    (hsorted : cuts.Pairwise fun a b => a.place < b.place) {count : Int} {range : Interval}
    {text : List Char}
    (hrange : (Cut.ranges opening none closing cuts)[Cut.passed count cuts]? = some range)
    (htext : texts[Cut.passed count cuts]? = some text) :
    Reaches count (thresholdVariants opening closing cuts texts) (Cut.passed count cuts)
        ⟨text, some range.print⟩ ∧
      Variant.Matches count ⟨text, some range.print⟩ := by
  have hzip := (List.getElem?_zip_eq_some (z := (range, text))).2 ⟨hrange, htext⟩
  have hmem := List.mem_of_getElem? hzip
  have hcontains : range.contains count = true := (Cut.contains_iff_eq_passed hsorted hrange).2 rfl
  refine ⟨⟨by rw [thresholdVariants, List.getElem?_map, hzip]; rfl, ?_⟩, range.print, range, rfl,
    Interval.read_print (short_of_mem_zip hshort hmem), hcontains⟩
  intro j hj w hw
  rw [thresholdVariants, List.getElem?_map, Option.map_eq_some_iff] at hw
  obtain ⟨⟨other, text'⟩, hother, rfl⟩ := hw
  rintro _ ⟨⟩
  refine ⟨other, Interval.read_print (short_of_mem_zip hshort (List.mem_of_getElem? hother)), ?_⟩
  rw [Bool.eq_false_iff, ne_eq,
    Cut.contains_iff_eq_passed hsorted (List.getElem?_zip_eq_some.1 hother).1]
  exact Nat.ne_of_lt hj

end
end Template

namespace Settings
open PluralMessage.Template (separator thresholds)

/-- In a threshold template the text of the range between the right cuts is chosen, by its rule and
for every locale. Its index is the number of cuts that the count has passed, and no other range
contains the count. -/
theorem choose_thresholds (settings : Settings) (opening closing : Bracket) {cuts : List Cut}
    {texts : List (List Char)} (hcuts : cuts ≠ []) (hlength : texts.length = cuts.length + 1)
    (hsorted : cuts.Pairwise fun a b => a.place < b.place)
    (hshort : ∀ cut ∈ cuts, Decimal.Short cut.place)
    (htexts : ∀ text ∈ texts, separator ∉ text ∧ Text.Trimmed text) (count : Int)
    (locale : Option String) :
    ∃ range text, (Cut.ranges opening none closing cuts)[Cut.passed count cuts]? = some range ∧
      texts[Cut.passed count cuts]? = some text ∧
      settings.choose (thresholds opening closing cuts texts) count locale =
        .ok ⟨text, Cut.passed count cuts, .explicit range.print⟩ ∧
      ∀ (i : Nat) (other : Interval), (Cut.ranges opening none closing cuts)[i]? = some other →
        (other.contains count = true ↔ i = Cut.passed count cuts) := by
  have hindex : Cut.passed count cuts < cuts.length + 1 := Nat.lt_succ_of_le Cut.passed_le_length
  have hrange := List.getElem?_eq_getElem (l := Cut.ranges opening none closing cuts)
    (by rwa [Cut.length_ranges])
  have htext := List.getElem?_eq_getElem (l := texts) (by rwa [hlength])
  obtain ⟨hreach, hmatch⟩ := Template.reaches_threshold hshort hsorted hrange htext
  obtain ⟨rule, hrule, hchoose⟩ := settings.choose_of_matches
    (Template.separator_mem_thresholds hcuts hlength)
    (Template.split_thresholds hcuts hlength hshort htexts) hreach hmatch locale
  cases hrule
  exact ⟨_, _, hrange, htext, hchoose, fun i other hi => Cut.contains_iff_eq_passed hsorted hi⟩

/-- The range between the cuts of this template holds no number at all. -/
def ages : List Cut :=
  [⟨0, .left⟩, ⟨1, .right⟩]

def ageTexts : List (List Char) :=
  ["unborn".toList, [], "at [1,2]".toList]

theorem choose_thresholds_ages :
    (ages ≠ [] ∧ ageTexts.length = ages.length + 1 ∧
        (ages.Pairwise fun a b => a.place < b.place) ∧
        (∀ cut ∈ ages, Decimal.Short cut.place) ∧
        ∀ text ∈ ageTexts, separator ∉ text ∧ Text.Trimmed text) ∧
      initial.choose "[-Inf,0] unborn|]0,1[ |[1,+Inf[ at [1,2]".toList 1 (some "pl") =
        .ok ⟨"at [1,2]".toList, 2, .explicit "[1,+Inf[".toList⟩ := by
  have hcuts : ages ≠ [] := by decide
  have hsorted : ages.Pairwise fun a b => a.place < b.place := by decide
  have hshort : ∀ cut ∈ ages, Decimal.Short cut.place := by decide
  have htexts : ∀ text ∈ ageTexts, separator ∉ text ∧ Text.Trimmed text := by decide
  refine ⟨⟨hcuts, rfl, hsorted, hshort, htexts⟩, ?_⟩
  obtain ⟨range, text, hrange, htext, hchoose, -⟩ :=
    choose_thresholds initial .left .left hcuts rfl hsorted hshort htexts 1 (some "pl")
  cases hrange
  cases htext
  exact hchoose

end Settings
end PluralMessage
