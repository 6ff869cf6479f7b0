import PluralMessage.Error
import PluralMessage.Plural.Locale
import PluralMessage.Template

/-!
Static checks of a template against a locale: rules that are malformed, and variants that are
missing, without a text, or out of reach. Issues are listed in the order of the variants, those of
the whole template last, but for a locale without plural rule, which comes first.
-/
namespace PluralMessage

/-- An error can make a selection fail, a warning cannot. -/
inductive Severity
  | error
  | warning
deriving DecidableEq, Repr

def Severity.name : Severity → String
  | error => "error"
  | warning => "warning"

inductive Issue
  | unknownLocale (locale : String)
  | invalidInterval (variant : Nat) (e : Interval.Malformed)
  | emptyVariant (variant : Nat)
  | missingForms (locale : String) (forms variants : Nat)
  | unusedVariants (locale : String) (forms : Nat)
deriving DecidableEq, Repr

namespace Issue

def severity : Issue → Severity
  | invalidInterval .. | missingForms .. => .error
  | unknownLocale _ | emptyVariant _ | unusedVariants .. => .warning

def code : Issue → String
  | unknownLocale _ => "unknown_locale"
  | invalidInterval .. => "invalid_interval"
  | emptyVariant _ => "empty_variant"
  | missingForms .. => "missing_forms"
  | unusedVariants .. => "unused_variants"

def message : Issue → String
  | unknownLocale locale =>
      s!"no plural rule for locale '{locale}'; the first variant is always used"
  | invalidInterval _ e => e.message
  | emptyVariant _ => "variant has no text"
  | missingForms locale forms variants =>
      s!"locale '{locale}' uses {forms} plural forms but the message has {variants} variants"
  | unusedVariants locale forms =>
      s!"locale '{locale}' uses {forms} plural forms; variants past index {forms - 1} " ++
        "are only reachable through explicit rules"

def variant? : Issue → Option Nat
  | invalidInterval variant _ | emptyVariant variant => some variant
  | _ => none

def describe (issue : Issue) : String :=
  let place := match issue.variant? with
    | some variant => s!" (variant {variant})"
    | none => ""
  s!"{issue.severity.name}[{issue.code}]{place}: {issue.message}"

end Issue

namespace Lint

def ruleIssues (index : Nat) (rule : Option (List Char)) : Except Decimal.TooLong (List Issue) :=
  match rule with
  | none => .ok []
  | some s =>
      match Interval.read s with
      | .ok _ => .ok []
      | .error (.malformed e) => .ok [.invalidInterval index e]
      | .error (.tooLong e) => .error e

def variantIssues (index : Nat) (variant : Variant) : Except Decimal.TooLong (List Issue) := do
  let issues ← ruleIssues index variant.rule
  pure (issues ++ if variant.text.isEmpty then [.emptyVariant index] else [])

/-- The issues of variants that are counted from `index`. -/
def variantsIssues (index : Nat) : List Variant → Except Decimal.TooLong (List Issue)
  | [] => .ok []
  | variant :: variants => do
      let issues ← variantIssues index variant
      let more ← variantsIssues (index + 1) variants
      pure (issues ++ more)

/-- Whether the variants are as many as the locale has forms. -/
def countIssues (variants : List Variant) (locale : String) : List Issue :=
  let forms := Plural.forms locale
  if variants.length < forms then [.missingForms locale forms variants.length]
  else if (variants.drop forms).any fun variant => variant.rule.isNone then
    [.unusedVariants locale forms]
  else []

def localeIssues (locale : String) : List Issue :=
  if Plural.isSupported locale then [] else [.unknownLocale locale]

def check (message : List Char) (locale : String) : Except Decimal.TooLong (List Issue) := do
  let variants ← Template.split message
  if Template.isSingle message then
    pure (localeIssues locale)
  else
    let issues ← variantsIssues 0 variants
    pure (localeIssues locale ++ issues ++ countIssues variants locale)

def hasErrors (issues : List Issue) : Bool :=
  issues.any fun issue => issue.severity == .error

end Lint
end PluralMessage
