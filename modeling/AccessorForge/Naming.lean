import AccessorForge.Text.Lower
/-! Names derived from a type or a container: the accessor's property, its cache field, the mixin class,
the module stem and the output file. -/
namespace AccessorForge.Naming
open Text

/-- The part after the last dot. -/
def defaultPropertyChars (s : List Char) : List Char :=
  (s.reverse.takeWhile (· ≠ '.')).reverse

def defaultProperty (typeName : String) : String :=
  String.ofList (defaultPropertyChars typeName.toList)

def cacheFieldChars : List Char → List Char
  | [] => ['_']
  | c :: rest => '_' :: Lower.lower [c] ++ rest

def cacheField (property : String) : String := String.ofList (cacheFieldChars property.toList)

def mixin (container : String) : String := container ++ "Getters"

/-- Insert an underscore between any character but a line feed and a capital that starts a word. Matches
do not overlap: `inTail` holds while the small letters of the last match are passed. -/
def splitWords (inTail : Bool) : List Char → List Char
  | [] => []
  | [c] => [c]
  | [c, d] => [c, d]
  | c :: u :: l :: rest =>
    if inTail && c.isLower then c :: splitWords true (u :: l :: rest)
    else if c ≠ '\n' && u.isUpper && l.isLower then c :: '_' :: u :: l :: splitWords true rest
    else c :: splitWords false (u :: l :: rest)

/-- Insert an underscore between a small letter or digit and a capital. -/
def splitCase : List Char → List Char
  | [] => []
  | [c] => [c]
  | a :: b :: rest =>
    if (a.isLower || a.isDigit) && b.isUpper then a :: '_' :: b :: splitCase rest
    else a :: splitCase (b :: rest)

def snakeChars (s : List Char) : List Char := Lower.lower (splitCase (splitWords false s))

def moduleStem (container : String) : String :=
  String.ofList (snakeChars container.toList) ++ "_getters"

def outputName (container : String) : String := moduleStem container ++ ".py"

/-- The part before the first dot: the name that has to be in scope for a dotted type. -/
def leadingName (typeName : String) : String := String.ofList (typeName.toList.takeWhile (· ≠ '.'))

def lastSegment (dotted : String) : String := defaultProperty dotted

end AccessorForge.Naming
