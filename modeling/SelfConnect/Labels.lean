import SelfConnect.Ledger.Entry

namespace SelfConnect.Ledger

open SelfConnect.Python

/-! Classification levels and caveats. -/

def Classification.rank : Classification → Nat
  | .unclassified => 0
  | .cui => 1
  | .secret => 2
  | .topSecret => 3

def classificationLevels : List Classification :=
  [.unclassified, .cui, .secret, .topSecret]

/-- `_RANK_MAP.get(normalized)`. -/
def rankOfName (normalized : Str) : Option Nat :=
  (classificationLevels.find? fun level => Str.lit level.name = normalized).map
    Classification.rank

/-- `rank` of a string; `none` is `ValueError`. The upper-casing of strings is Unicode's. -/
def rankOf (upper : Str → Str) (level : Str) : Option Nat :=
  rankOfName (upper level)

/-- `ALLOWED_CAVEATS`. -/
def allowedCaveats : List Str :=
  ["NOFORN", "ORCON", "REL_TO", "FISA", "HCS", "SI", "TK", "GAMMA"].map Str.lit

def subset (first second : List Str) : Bool := first.all second.contains

/-- `LabelEnvelope.validate`. -/
def validateLabel (label : LabelEnvelope) : Bool := subset label.caveats allowedCaveats

end SelfConnect.Ledger
