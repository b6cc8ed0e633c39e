import DataPath.Text.Blank
import DataPath.Text.Dump
import DataPath.Text.Quoted

/-!
# Data classes

A *data class* is a category of packet-data usage: default internet, multimedia
messages, tethering and so on.  There are ten of them, each with a label in lower
case.  Wherever classes are listed in order, the order is that of their labels, and
the constructors below are declared in that order.

A label is read generously: blanks around it are dropped and ASCII letters may be
of either case.  Nothing else is forgiven; a letter from outside ASCII that looks
like, or folds to, an ASCII one makes an unknown label.
-/

namespace DataPath

/-- A category of packet-data usage. -/
inductive DataClass where
  | cbs
  | default
  | dun
  | emergency
  | fota
  | hipri
  | ia
  | ims
  | mms
  | supl
  deriving DecidableEq, Repr, Inhabited

namespace DataClass

/-- The label of a class. -/
def label : DataClass → String
  | .cbs => "cbs"
  | .default => "default"
  | .dun => "dun"
  | .emergency => "emergency"
  | .fota => "fota"
  | .hipri => "hipri"
  | .ia => "ia"
  | .ims => "ims"
  | .mms => "mms"
  | .supl => "supl"

/-- Every class, in the order of the labels. -/
def all : List DataClass :=
  [.cbs, .default, .dun, .emergency, .fota, .hipri, .ia, .ims, .mms, .supl]

/-- Every class, in the order in which they are announced to a user. -/
def announced : List DataClass :=
  [.default, .mms, .supl, .dun, .hipri, .fota, .ims, .cbs, .ia, .emergency]

theorem mem_all (c : DataClass) : c ∈ all := by cases c <;> decide

/-- Whether this is the default internet class. -/
def isDefault (c : DataClass) : Bool := c = .default

/-- The class with exactly this label. -/
def ofLabel? (label : List Char) : Option DataClass :=
  all.find? fun c => c.label.toList = label

/-- The class a text names: its label, in letters of either case, between blanks. -/
def parse? (text : String) : Option DataClass :=
  ofLabel? ((Text.trim text.toList).map Char.toLower)

/-- The dumped form of a class. -/
def dump (c : DataClass) : String := Text.dumpTuple "DataClass" [Text.quoted c.label]

end DataClass

end DataPath
