/-!
# Categories

* `Category`: the fixed set of categories, in the order in which pages list them.
* `Category.ofName?`: the category with a name.
-/

namespace FunctionManual

/-- What a function is about. -/
inductive Category
  | array
  | checksum
  | codec
  | coerce
  | convert
  | cryptography
  | debug
  | enrich
  | enumerate
  | event
  | ip
  | number
  | object
  | parse
  | path
  | random
  | string
  | system
  | timestamp
  | type
  deriving DecidableEq, Repr

namespace Category

/-- All categories in order. -/
def all : List Category := [array, checksum, codec, coerce, convert, cryptography, debug, enrich,
  enumerate, event, ip, number, object, parse, path, random, string, system, timestamp, type]

/-- The name of a category. -/
def name : Category → String
  | .array => "array"
  | .checksum => "checksum"
  | .codec => "codec"
  | .coerce => "coerce"
  | .convert => "convert"
  | .cryptography => "cryptography"
  | .debug => "debug"
  | .enrich => "enrich"
  | .enumerate => "enumerate"
  | .event => "event"
  | .ip => "ip"
  | .number => "number"
  | .object => "object"
  | .parse => "parse"
  | .path => "path"
  | .random => "random"
  | .string => "string"
  | .system => "system"
  | .timestamp => "timestamp"
  | .type => "type"

/-- The category with a name. -/
def ofName? (n : String) : Option Category := all.find? (·.name = n)

end Category

end FunctionManual
