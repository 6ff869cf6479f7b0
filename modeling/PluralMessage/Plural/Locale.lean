import PluralMessage.Plural.Family

/-!
Locales and their plural families. A locale is looked up by its exact code; a code without an entry
has the family `default`, with one form for every count.
-/
namespace PluralMessage.Plural

/-- The locales that have a plural rule, in the order of their codes. -/
def localeTable : List (String × Family) :=
  [("af", .oneOther), ("am", .zeroOneOther), ("ar", .arabic), ("az", .none), ("be", .slavic),
    ("bg", .oneOther), ("bh", .zeroOneOther), ("bn", .oneOther), ("bo", .none), ("bs", .slavic),
    ("ca", .oneOther), ("cs", .czech), ("cy", .welsh), ("da", .oneOther), ("de", .oneOther),
    ("dz", .none), ("el", .oneOther), ("en", .oneOther), ("eo", .oneOther), ("es", .oneOther),
    ("et", .oneOther), ("eu", .oneOther), ("fa", .oneOther), ("fi", .oneOther),
    ("fil", .zeroOneOther), ("fo", .oneOther), ("fr", .zeroOneOther), ("fur", .oneOther),
    ("fy", .oneOther), ("ga", .irish), ("gl", .oneOther), ("gu", .oneOther), ("gun", .zeroOneOther),
    ("ha", .oneOther), ("he", .oneOther), ("hi", .zeroOneOther), ("hr", .slavic), ("hu", .oneOther),
    ("hy", .zeroOneOther), ("id", .none), ("is", .oneOther), ("it", .oneOther), ("ja", .none),
    ("jv", .none), ("ka", .none), ("km", .none), ("kn", .none), ("ko", .none), ("ku", .oneOther),
    ("lb", .oneOther), ("ln", .zeroOneOther), ("lt", .lithuanian), ("lv", .latvian),
    ("mg", .zeroOneOther), ("mk", .macedonian), ("ml", .oneOther), ("mn", .oneOther),
    ("mr", .oneOther), ("ms", .none), ("mt", .maltese), ("nah", .oneOther), ("nb", .oneOther),
    ("ne", .oneOther), ("nl", .oneOther), ("nn", .oneOther), ("no", .oneOther),
    ("nso", .zeroOneOther), ("om", .oneOther), ("or", .oneOther), ("pa", .oneOther),
    ("pap", .oneOther), ("pl", .polish), ("ps", .oneOther), ("pt", .oneOther), ("ro", .romanian),
    ("ru", .slavic), ("sk", .czech), ("sl", .slovenian), ("so", .oneOther), ("sq", .oneOther),
    ("sr", .slavic), ("sv", .oneOther), ("sw", .oneOther), ("ta", .oneOther), ("te", .oneOther),
    ("th", .none), ("ti", .zeroOneOther), ("tk", .oneOther), ("tr", .none), ("uk", .slavic),
    ("ur", .oneOther), ("vi", .none), ("wa", .zeroOneOther), ("xbr", .zeroOneOther), ("zh", .none),
    ("zu", .oneOther)]

def family? (locale : String) : Option Family :=
  localeTable.lookup locale

def family (locale : String) : Family :=
  (family? locale).getD .default

def isSupported (locale : String) : Bool :=
  (family? locale).isSome

def forms (locale : String) : Nat :=
  (family locale).forms

def form (count : Int) (locale : String) : Nat :=
  (family locale).form count

end PluralMessage.Plural
