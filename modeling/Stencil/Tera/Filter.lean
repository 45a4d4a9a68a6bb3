import Stencil.ByteSize
import Stencil.Moment
import Stencil.Json.Printer
import Stencil.Tera.Way
import Stencil.Text.Case
import Stencil.Text.Cluster
import Stencil.Text.Markup
import Stencil.Text.Percent
import Stencil.Text.Property
import Stencil.Text.Slug

/-! The filters that every template can use. -/
namespace Stencil
namespace Tera

namespace Filter

open Value

abbrev Named := List (String × Json)

def text (v : Json) : Result (List Char) :=
  match v with
  | .string s => .ok s.toList
  | _ => fault "expected a string"

def ofChars (cs : List Char) : Json := .string (String.ofList cs)

def items (v : Json) : Result (List Json) :=
  match v with
  | .array vs => .ok vs
  | _ => fault "expected an array"

def number (v : Json) : Result Number :=
  match v with
  | .number n => .ok n
  | _ => fault "expected a number"

/-- A signed integer of 64 bits. -/
def int (v : Json) : Result Int :=
  match v with
  | .number (.int n) => if n ≤ Number.greatestSigned then .ok n else fault "number is too large"
  | _ => fault "expected an integer"

def floating (v : Json) : Result Float := toFloat <$> number v

def flag (v : Json) : Result Bool :=
  match v with
  | .bool b => .ok b
  | _ => fault "expected a boolean"

def size (v : Json) : Result Nat :=
  match v with
  | .number (.int (.ofNat n)) => .ok n
  | _ => fault "expected a whole number that is not negative"

def required (a : Named) (name : String) : Result Json :=
  match Fields.get? a name with
  | some v => .ok v
  | none => fault "missing argument"

/-- An argument that may be left out. -/
def given (a : Named) (name : String) (read : Json → Result α) (fallback : α) : Result α :=
  match Fields.get? a name with
  | some v => read v
  | none => .ok fallback

def isWordChar (c : Char) : Bool := Text.Property.isWord c.toNat

/-- Words start with a capital letter and go on in small ones, also past apostrophes. -/
def titleCase : Nat → List Char → List Char
  | 0, cs => cs
  | _ + 1, [] => []
  | fuel + 1, c :: cs =>
    if isWordChar c then
      let isInner := fun d => isWordChar d || d == '\''
      Text.Case.upperChar c ++ Text.Case.lower (cs.takeWhile isInner) ++
        titleCase fuel (cs.dropWhile isInner)
    else c :: titleCase fuel cs

/-- A line end or a tab may be spelt with a backslash where texts are cut and joined. -/
def unescaped (cs : List Char) : List Char :=
  Text.replaceAll "\\t".toList ['\t'] (Text.replaceAll "\\n".toList ['\n'] cs)

def dropAll (part : List Char) : Nat → List Char → List Char
  | 0, cs => cs
  | fuel + 1, cs =>
    match Text.dropLead? part cs with
    | some rest => if part.isEmpty then cs else dropAll part fuel rest
    | none => cs

/-- Every line but the first after a line end and, unless it is blank, the margin. -/
def indented (margin : List Char) (first blank : Bool) (cs : List Char) : List Char :=
  match Text.splitLines [] cs with
  | [] => []
  | line :: lines =>
    (if first then margin else []) ++ line ++ lines.flatMap fun line =>
      '\n' :: (if blank || !line.all Text.isBlank then margin else []) ++ line

def slashed (c : Char) : List Char :=
  if c = '\\' ∨ c = '"' ∨ c = '\'' then ['\\', c] else [c]

/-- Filters on a text; `none` for other names. -/
def textFilter? (name : String) (v : Json) (a : Named) : Option (Result Json) :=
  match name with
  | "upper" => some do return ofChars (Text.Case.upper (← text v))
  | "lower" => some do return ofChars (Text.Case.lower (← text v))
  | "capitalize" => some do
    match ← text v with
    | [] => return .string ""
    | c :: cs => return ofChars (Text.Case.upperChar c ++ Text.Case.lower cs)
  | "title" => some do
    let cs ← text v
    return ofChars (titleCase (cs.length + 1) cs)
  | "trim" => some do return ofChars (Text.dropBlankEnd (Text.dropBlank (← text v)))
  | "trim_start" => some do return ofChars (Text.dropBlank (← text v))
  | "trim_end" => some do return ofChars (Text.dropBlankEnd (← text v))
  | "trim_start_matches" => some do
    let cs ← text v
    return ofChars (dropAll (unescaped (← text (← required a "pat"))) cs.length cs)
  | "trim_end_matches" => some do
    let cs ← text v
    let part := unescaped (← text (← required a "pat"))
    return ofChars (dropAll part.reverse cs.length cs.reverse).reverse
  | "wordcount" => some do return .int (Text.wordsOf [] (← text v)).length
  | "replace" => some do
    let cs ← text v
    let old ← text (← required a "from")
    return ofChars (Text.replaceAll old (← text (← required a "to")) cs)
  | "split" => some do
    let cs ← text v
    let separator := unescaped (← text (← required a "pat"))
    return .array ((Text.splitAll separator cs).map ofChars)
  | "truncate" => some do
    let cs ← text v
    let length ← given a "length" size 255
    let ending ← given a "end" text ['…']
    let clusters := Text.Cluster.split cs
    return if clusters.length ≤ length then v
      else ofChars ((clusters.take length).flatten ++ ending)
  | "addslashes" => some do return ofChars ((← text v).flatMap slashed)
  | "linebreaksbr" => some do
    let cs ← text v
    return ofChars (Text.replaceAll ['\n'] "<br>".toList (Text.replaceAll ['\r', '\n'] ['\n'] cs))
  | "indent" => some do
    let cs ← text v
    let margin ← given a "prefix" text (List.replicate 4 ' ')
    return ofChars (indented margin (← given a "first" flag false) (← given a "blank" flag false) cs)
  | "escape" => some do
    return ofChars ((← text v).flatMap (Text.escapeMarkup "&#x27;" "&#x2F;"))
  | "escape_xml" => some do
    return ofChars ((← text v).flatMap (Text.escapeMarkup "&apos;" "/"))
  | "striptags" => some do
    let cs ← text v
    return ofChars (Text.withoutTags cs.length cs)
  | "spaceless" => some do return ofChars (Text.closeTags (← text v))
  | "urlencode" => some do return ofChars (Text.Percent.encode Text.Percent.isPlain (← text v))
  | "urlencode_strict" => some do
    return ofChars (Text.Percent.encode Char.isAlphanum (← text v))
  | "slugify" => some do return ofChars (Text.Slug.render (← text v))
  | _ => none

def order (v w : Json) : Ordering :=
  match v, w with
  | .number a, .number b =>
    if toFloat a < toFloat b then .lt else if toFloat b < toFloat a then .gt else .eq
  | .string a, .string b => compare a b
  | .bool a, .bool b => compare a b
  | .array a, .array b => compare a.length b.length
  | _, _ => .eq

def kindOf : Json → Nat
  | .null => 0
  | .bool _ => 1
  | .number _ => 2
  | .string _ => 3
  | .array _ => 4
  | .object _ => 5

/-- Values can be sorted if they are all of one kind that has an order. -/
def sortable (vs : List Json) : Bool :=
  match vs with
  | [] => true
  | v :: rest => 0 < kindOf v && kindOf v < 5 && rest.all fun w => kindOf w == kindOf v

/-- Each value with the attribute that counts in its place. -/
def keyed (path : List Char) (vs : List Json) : Result (List (Json × Json)) :=
  vs.mapM fun v =>
    match Way.follow v path with
    | some k => .ok (k, v)
    | none => fault "attribute not found"

/-- The first value of each key. The keys are all of one kind; case does not count unless it is
said to, and only signed integers, booleans and texts are keys. -/
def distinct (exact : Bool) (kind : Nat) (seen : List Json) : List (Json × Json) → Result (List Json)
  | [] => .ok []
  | (k, v) :: rest =>
    if kindOf k != kind then fault "unique cannot compare values of several kinds"
    else do
      let key ← match k with
        | .string s => pure (if exact then k else ofChars (Text.Case.lower s.toList))
        | .number (.int n) =>
          if n ≤ Number.greatestSigned then pure k else fault "number is too large"
        | .bool _ => pure k
        | _ => fault "unique cannot be applied to these values"
      if seen.any fun s => same s key then distinct exact kind seen rest
      else return v :: (← distinct exact kind (key :: seen) rest)

/-- Values under the text of what they hold at an attribute, in order of appearance. -/
def grouped (path : List Char) (vs : List Json) : List (String × List Json) :=
  vs.foldl (fun groups v =>
    match Way.follow v path with
    | none | some .null => groups
    | some key =>
      let name := match key with
        | .string s => s
        | key => key.render
      Fields.put groups name ((Fields.get? groups name).getD [] ++ [v])) []

/-- A place, from the end if the number is negative. -/
def place (length : Nat) (i : Float) : Nat :=
  let i := if i ≥ 0 then i else Double.ofInt length + i
  (Double.saturate 0 Number.greatest i).toNat

def listFilter? (name : String) (v : Json) (a : Named) : Option (Result Json) :=
  match name with
  | "first" => some do return (← items v).head?.getD (.string "")
  | "last" => some do return (← items v).getLast?.getD (.string "")
  | "nth" => some do
    let vs ← items v
    if vs.isEmpty then return .string ""
    else return (vs[← size (← required a "n")]?).getD (.string "")
  | "join" => some do
    let vs ← items v
    let separator := unescaped (← given a "sep" text [])
    return ofChars (Text.joinWith separator (vs.map fun w => (display w).toList))
  | "length" => some
    (match v with
      | .array vs => .ok (.int vs.length)
      | .object fields => .ok (.int fields.length)
      | .string s => .ok (.int s.length)
      | _ => fault "value has no length")
  | "reverse" => some
    (match v with
      | .array vs => .ok (.array vs.reverse)
      | .string s => .ok (ofChars s.toList.reverse)
      | _ => fault "value cannot be reversed")
  | "sort" => some do
    let vs ← items v
    let path ← if vs.isEmpty then pure [] else given a "attribute" text []
    let pairs ← keyed path vs
    if sortable (pairs.map (·.1)) then
      return .array ((pairs.mergeSort fun p q => order p.1 q.1 != .gt).map (·.2))
    else fault "values cannot be sorted"
  | "unique" => some do
    let vs ← items v
    match vs with
    | [] => return .array []
    | first :: _ =>
      let exact ← given a "case_sensitive" flag false
      let path ← given a "attribute" text []
      match Way.follow first path with
      | none => fault "attribute not found"
      | some k =>
        if (match k with | .bool _ | .number (.int _) | .string _ => true | _ => false) then
          return .array (← distinct exact (kindOf k) [] (vs.filterMap fun w =>
            (Way.follow w path).map fun k => (k, w)))
        else fault "unique cannot be applied to these values"
  | "group_by" => some do
    let vs ← items v
    if vs.isEmpty then return .object []
    else
      let path ← text (← required a "attribute")
      return .object ((grouped path vs).map fun (k, ws) => (k, .array ws))
  | "slice" => some do
    let vs ← items v
    if vs.isEmpty then return v
    else
      let start ← given a "start" (fun w => place vs.length <$> floating w) 0
      let stop ← given a "end" (fun w => place vs.length <$> floating w) vs.length
      return .array ((vs.take stop).drop start)
  | "concat" => some do
    let vs ← items v
    match ← required a "with" with
    | .array ws => return .array (vs ++ ws)
    | w => return .array (vs ++ [w])
  | "map" => some do
    let vs ← items v
    if vs.isEmpty then return v
    else
      let path ← text (← required a "attribute")
      return .array (vs.filterMap fun w =>
        match Way.follow w path with
        | some .null => none
        | found => found)
  | "filter" => some do
    let vs ← items v
    if vs.isEmpty then return v
    else
      let path ← text (← required a "attribute")
      return .array (vs.filter fun w =>
        let found := (Way.follow w path).getD .null
        match (Fields.get? a "value").getD .null with
        | .null => kindOf found != 0
        | wanted => same found wanted)
  | "get" => some do
    let key ← text (← required a "key")
    match v with
    | .object fields =>
      match Fields.get? fields (String.ofList key), Fields.get? a "default" with
      | some w, _ => return w
      | none, some w => return w
      | none, none => fault "key not found"
    | _ => fault "expected an object"
  | _ => none

def roundTo (method : String) (precision : Int) (x : Float) : Result Json :=
  let scale := if precision = 0 then 1.0 else Float.pow 10.0 (Double.ofInt precision)
  let rounded := match method with
    | "common" => some (scale * x).round
    | "ceil" => some (scale * x).ceil
    | "floor" => some (scale * x).floor
    | _ => none
  match rounded with
  | some y => .ok (((ofFloat? (y / scale)).map .number).getD .null)
  | none => fault "unknown method of rounding"

/-- The number below `base` that a digit or letter stands for. -/
def digitIn? (base : Nat) (c : Char) : Option Nat :=
  let n := if Text.asciiDigit c then some (c.toNat - 48)
    else if c.isAlpha then some (c.toLower.toNat - 87)
    else none
  n.filter (· < base)

/-- A signed whole number of 64 bits, as digits in a base. -/
def signed? (base : Nat) (cs : List Char) : Option Int :=
  let (negative, ds) := Decimal.takeSign cs
  if ds.isEmpty then none
  else
    let n := ds.foldl (fun n c => n.bind fun n => (digitIn? base c).map (n * base + ·)) (some 0)
    let i : Option Int := n.map fun n => if negative then -(n : Int) else n
    i.filter fun i => i == clamp i

/-- What may stand before the digits of a number in some bases. -/
def baseMark (base : Nat) : List Char :=
  if base = 2 then ['0', 'b'] else if base = 8 then ['0', 'o']
  else if base = 16 then ['0', 'x'] else []

/-- The integer of 64 bits that is nearest on the way to zero. -/
def wholePart (x : Float) : Int := Double.saturate Number.least Number.greatestSigned x

/-- A whole number: what a text writes in a base, or a number without its fraction. -/
def toInt (base : Nat) (v : Json) (fallback : Int) : Result Json :=
  match v with
  | .number n => .ok (.int (wholePart (toFloat n)))
  | .string s =>
    let cs := Text.dropBlankEnd (Text.dropBlank s.toList)
    let cs := dropAll (baseMark base) cs.length cs
    match signed? base cs with
    | some n => .ok (.int n)
    | none =>
      match cs.contains '.', Double.read? (String.ofList cs) with
      | true, some x => .ok (.int (wholePart x))
      | _, _ => .ok (.int fallback)
  | _ => fault "expected a number or a string"

/-- A number that may turn out not to be finite, which no value is. -/
def ofFloating (x : Float) : Json := ((ofFloat? x).map .number).getD .null

def toFloating (v : Json) (fallback : Float) : Result Json :=
  match v with
  | .number n => .ok (ofFloating (toFloat n))
  | .string s => .ok (ofFloating ((Double.read? (Text.trim s)).getD fallback))
  | _ => fault "expected a number or a string"

def valueFilter? (name : String) (v : Json) (a : Named) : Option (Result Json) :=
  match name with
  | "round" => some do
    let method ← given a "method" text "common".toList
    let precision ← given a "precision" int 0
    if precision < -2147483648 ∨ 2147483647 < precision then fault "number is too large" else
    roundTo (String.ofList method) precision (toFloat (← number v))
  | "abs" => some
    (match v with
      | .number (.int n) => .ok (.int n.natAbs)
      | .number (.float x) => .ok (.number (.float { x with negative := false }))
      | _ => fault "expected a number")
  | "int" => some do
    let fallback ← given a "default" int 0
    toInt (← given a "base" size 10) v fallback
  | "float" => some do toFloating v (← given a "default" floating 0.0)
  | "pluralize" => some do
    let x ← floating v
    let plural ← given a "plural" text ['s']
    let singular ← given a "singular" text []
    return ofChars (if (x.abs - 1.0).abs > Double.epsilon then plural else singular)
  | "filesizeformat" => some do
    let n ← size v
    return .string (ByteSize.render (← given a "binary" flag false) n)
  | "date" => some do
    let pattern ← given a "format" text "%Y-%m-%d".toList
    let zone ← given a "timezone" (fun w => do
      match TimeZone.find? (String.ofList (← text w)) with
      | some zone => return some zone
      | none => fault "not a time zone") none
    let moment ← match v with
      | .number _ => pure (some ((Moment.ofTimestamp (← int v)).inZone zone))
      | .string s => pure (Moment.read? zone s.toList)
      | _ => pure none
    match moment.bind (Moment.show? · pattern) with
    | some t => return .string t
    | none => fault "not a date"
  | "json_encode" => some do
    let pretty := match Fields.get? a "pretty" with
      | some (.bool b) => b
      | _ => false
    return .string (if pretty then v.renderIndented 0 else v.render)
  | "as_str" => some (.ok (.string (display v)))
  | _ => none

def apply (name : String) (v : Json) (a : Named) : Result Json :=
  ((textFilter? name v a).or ((listFilter? name v a).or (valueFilter? name v a))).getD
    (fault "filter not found")

end Filter
end Tera
end Stencil
