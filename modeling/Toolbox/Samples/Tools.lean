import Toolbox.Annotation.Expansion
import Toolbox.Code.Grammar
import Toolbox.Samples.Types

/-!
# Sample tools

Annotated functions with what they do.  `declarations` are the tools that they declare; all are
declared, but two of them are not valid: one has a schema that is not an object, one has a blank in
its name.
-/

namespace Toolbox.Samples

/-- An annotated function with what it does. -/
structure Sample where
  items : List AttributeItem := []
  function : DeclaredFunction
  run : Arguments → Except ToolError Output

/-- A parameter, with the items of its attribute if it has one. -/
def parameter (pattern type : String) (items : List AttributeItem := []) : DeclaredParam where
  pattern := Token.scan pattern
  type := .ofText type
  attributes := if items.isEmpty then [] else [.ofItems "param" items]

/-- A function with its documentation, line by line. -/
def declare (name : String) (doc : List String) (params : List DeclaredParam)
    (returns : String) (isAsync : Bool := false) : DeclaredFunction where
  name
  attributes := Attribute.ofLines doc
  isAsync
  params
  returns := some (.ofText returns)

/-! ## Tools for text and numbers -/

def getWeather : Sample where
  items := [.ofText "description" "Get the current weather for a location"]
  function := declare "get_weather" []
    [parameter "location" "String", parameter "unit" "String" [.ofText "default" "fahrenheit"]]
    "Value"
  run a := do
    let location ← a.get "location" .text
    let unit ← a.get "unit" .text
    return .ofJson (.ofMembers [("location", .string location), ("unit", .string unit),
      ("temperature", .int 72)])

def convert : Sample where
  items := [.ofText "category" "math", .ofText "version" "2.1.0"]
  function := declare "convert"
    ["Convert a temperature between units.", "", "Args:", "    value: Temperature to convert.",
     "    to: Target unit."]
    [parameter "value" "f64", parameter "to" "Unit" [.ofSource "default" "Unit::Celsius"]] "f64"
  run a := do
    let value ← a.get "value" .real
    let unit ← a.get "to" TemperatureUnit.decode
    return .ofJson (.real (unit.convert value))

def lookupUser : Sample where
  items := [.ofText "category" "directory"]
  function := declare "lookup_user"
    ["Look up a user's display name.", "", "# Arguments", "", "* `id` - Numeric user id.",
     "* `nickname` - Preferred name, if the caller knows one."]
    [parameter "id" "u64", parameter "nickname" "Option<String>" [.ofSource "default" "None"]]
    "Result<String, String>" true
  run a := do
    let id ← a.get "id" (.unsigned 64)
    let nickname ← a.get "nickname" (.optional .text)
    Output.ofOutcome <|
      if id = 0 then .error "user 0 does not exist"
      else .ok (.ofJson (.string (nickname.getD s!"user-{id}")))

def wordCount : Sample where
  function := declare "word_count" ["Count the words in a text."]
    [parameter "text" "&str"] "usize"
  run a := do
    let text ← a.get "text" .text
    let words := (text.toList.splitOn ' ').filter (!·.isEmpty)
    return .ofJson (.int words.length)

def findDocuments : Sample where
  function := declare "find_documents" ["Find documents matching a query."]
    [parameter "query" "String"] "SearchResult"
  run a := do
    let query ← a.get "query" .text
    return .ofJson (.ofMembers [("hits", .array [.string query]), ("total", .int 1)])

def greet : Sample where
  function := declare "greet" ["Greet someone by name, or the whole world."]
    [parameter "name" "Option<&str>"] "String"
  run a := do
    let name ← a.get "name" (.optional .text)
    return .ofJson (.string ("Hello, " ++ name.getD "world" ++ "!"))

def search : Sample where
  items := [.ofSource "parameters" "search_schema", .ofText "name" "doc_search",
    .ofSource "enabled" "false", .ofSource "auto_register" "false"]
  function := declare "search" ["Search indexed documents."]
    [parameter "query" "String"] "Vec<String>"
  run a := do
    let query ← a.get "query" .text
    return .ofJson (.array [.string query])

/-- Whether a sum still fits a signed word of 64 bits. -/
def fitsWord (n : Int) : Bool := -Int.pow 2 63 ≤ n && n < Int.pow 2 63

def sumInts : Sample where
  items := [.ofText "category" "math"]
  function := declare "sum_ints" ["Sum integers."]
    [parameter "values" "&[i64]" [.ofText "description" "Integers to add."],
     parameter "start" "i64" [.ofSource "default" "0"]] "Result<i64, String>"
  run a := do
    let values ← a.get "values" (.list (.signed 64))
    let start ← a.get "start" (.signed 64)
    let step (sum : Int) (value : Int) : Except String Int :=
      if fitsWord (sum + value) then .ok (sum + value) else .error "sum overflows"
    Output.ofOutcome do return .ofJson (.int (← values.foldlM step start))

def ratio : Sample where
  items := [.ofText "category" "math"]
  function := declare "ratio" ["Divide two integers as reals."]
    [parameter "a" "i32", parameter "b" "i32"] "f64"
  run a := do
    let dividend ← a.get "a" (.signed 32)
    let divisor ← a.get "b" (.signed 32)
    return .ofJson (.real (Float.ofInt dividend / Float.ofInt divisor))

def small : Sample where
  function := declare "small" ["Small integers."]
    [parameter "n" "u8", parameter "m" "i8" [.ofSource "default" "-1"]] "i16"
  run a := do
    let n ← a.get "n" (.unsigned 8)
    let m ← a.get "m" (.signed 8)
    return .ofJson (.int (n + m))

def charCode : Sample where
  function := declare "char_code" ["Code point of a character."]
    [parameter "c" "char"] "u32"
  run a := do
    let c ← a.get "c" .character
    return .ofJson (.int c.toNat)

def texts : Sample where
  items := [.ofSource "auto_register" "false"]
  function := declare "texts"
    ["Text-like parameters.", "", "Parameters:", "  `boxed`: Boxed text.",
     "  - cow (text): Borrowed text.", "  path : not an entry."]
    [parameter "boxed" "Box<str>", parameter "cow" "Cow<'static, str>",
     parameter "path" "PathBuf", parameter "sep" "&str" [.ofText "default" ", "]] "Vec<String>"
  run a := do
    let boxed ← a.get "boxed" .text
    let cow ← a.get "cow" .text
    let path ← a.get "path" .path
    let sep ← a.get "sep" .text
    return .ofJson (.array ([boxed, sep, cow, path].map .string))

def kindOf : Sample where
  function := declare "kind_of" ["Any JSON value, described."]
    [parameter "value" "Value", parameter "pad" "Vec<u32>" [.ofSource "default" "vec![1, 2]"]]
    "String"
  run a := do
    let value ← a.get "value" .any
    let pad ← a.get "pad" (.list (.unsigned 32))
    let kind := match value with
      | .null => "null"
      | .bool _ => "bool"
      | .number _ => "number"
      | .string _ => "string"
      | .array _ => "array"
      | .object _ => "object"
    return .ofJson (.string s!"{kind}/{pad.length}")

/-! ## Tools for collections -/

def invert : Sample where
  function := declare "invert" ["Swap keys and values."]
    [parameter "map" "BTreeMap<String, String>"] "BTreeMap<String, String>"
  run a := do
    let map ← a.get "map" (.dict .text)
    return .ofJson (.ofMembers (map.entries.map fun (key, value) => (value, .string key)))

def pairs : Sample where
  function := declare "pairs" ["Map with keys JSON cannot hold."]
    [parameter "n" "u8"] "BTreeMap<(u8, u8), String>"
  run a := do
    let n ← a.get "n" (.unsigned 8)
    let entries := (List.range n.toNat).map fun i => s!"({i}, {i / 2}): \"p{i}\""
    return .encoded (if entries.isEmpty then .ok (.object []) else .error "key must be a string")
      (some ("\x7b" ++ ", ".intercalate entries ++ "\x7d"))

def unprintable : Sample where
  function := declare "unprintable" ["Output serde rejects and nobody can print."]
    [parameter "keys" "bool"] "NoDebug"
  run a := do
    let keys ← a.get "keys" .boolean
    return .encoded (if keys then .error "key must be a string" else .ok (.object [])) none

def countFlags : Sample where
  items := [.ofSource "auto_schema" "false", .ofText "category" "misc"]
  function := declare "count_flags" ["Count the true flags."]
    [parameter "flags" "HashMap<String, Vec<Option<bool>>>"] "usize"
  run a := do
    let flags ← a.get "flags" (.dict (.list (.optional .boolean)))
    return .ofJson (.int (flags.values.flatten.count (some true)))

/-! ## Tools for types of their own -/

def openHandle : Sample where
  items := [.ofText "category" "host"]
  function := declare "open_handle" ["Open a handle held by the host."]
    [parameter "handle" "Handle"] "Receipt"
  run a := do
    let handle ← a.get "handle" Handle.decode
    return .diagnosed handle.receipt

def openHandles : Sample where
  items := [.ofText "category" "host"]
  function := declare "open_handles" ["Open several handles, when given."]
    [parameter "handles" "Vec<Handle>", parameter "named" "Option<HashMap<String, Handle>>"]
    "usize"
  run a := do
    let handles ← a.get "handles" (.list Handle.decode)
    let named ← a.get "named" (.optional (.dict Handle.decode))
    return .ofJson (.int (handles.length + (named.map (·.size)).getD 0))

def celsius : Sample where
  function := declare "celsius" ["Format a temperature."]
    [parameter "degrees" "i32"] "Celsius"
  run a := do
    let degrees ← a.get "degrees" (.signed 32)
    return .displayed s!"{degrees}°C"

def describeLimit : Sample where
  function := declare "describe_limit" ["Describe a limit."]
    [parameter "limit" "Limit"] "String"
  run a := do
    let limit ← a.get "limit" Limit.decode
    return .ofJson (.string limit.describe)

def echoMode : Sample where
  function := declare "echo_mode" ["Echo a mode."]
    [parameter "mode" "Mode"] "Mode"
  run a := do
    let mode ← a.get "mode" Mode.decode
    return .ofJson mode.toJson

/-! ## Tools for outcomes and names -/

def noop : Sample where
  function := declare "noop" ["Do nothing."]
    [] "()"
  run _ := .ok (.ofJson .null)

def debugResult : Sample where
  function := declare "debug_result" ["Result whose error cannot be displayed or serialized."]
    [parameter "code" "u8"] "Result<u8, Failure>"
  run a := do
    let code ← a.get "code" (.unsigned 8)
    return .diagnosed <|
      if code = 0 then "Ok(0)" else "Err(Failure \x7b code: " ++ toString code ++ " \x7d)"

def codedResult : Sample where
  function := declare "coded_result" ["Result whose error serializes but does not display."]
    [parameter "code" "u8"] "Result<Option<u8>, CodedFailure>"
  run a := do
    let code ← a.get "code" (.unsigned 8)
    return .ofJson <|
      if code = 0 then .ofMembers [("Ok", .null)]
      else .ofMembers [("Err", .ofMembers [("code", .int code)])]

def typeTool : Sample where
  items := [.ofText "category" "misc"]
  function := declare "r#type" ["Raw identifiers lose their prefix."]
    [parameter "r#match" "bool",
     parameter "nothing" "()" [.ofSource "default" "()", .ofText "description" "Only null."]]
    "bool"
  run a := do
    let flag ← a.get "match" .boolean
    a.get "nothing" .unit
    return .ofJson (.bool !flag)

def brokenSchema : Sample where
  items := [.ofSource "parameters" "string_schema"]
  function := declare "broken_schema" ["Declared with a schema that is not an object."]
    [] "()"
  run _ := .ok (.ofJson .null)

def brokenName : Sample where
  items := [.ofText "name" "bad name", .ofText "category" "broken"]
  function := declare "broken_name" ["Declared with an invalid name."]
    [] "()"
  run _ := .ok (.ofJson .null)

/-! ## Declarations -/

def all : List Sample :=
  [getWeather, convert, lookupUser, wordCount, openHandle, openHandles, findDocuments, greet,
   search, sumInts, ratio, invert, pairs, unprintable, celsius, noop, debugResult, codedResult,
   charCode, describeLimit, echoMode, typeTool, small, texts, countFlags, kindOf, brokenSchema,
   brokenName]

/-- Values of the expressions that stand as defaults. -/
def values : List (String × Json) :=
  [("Unit::Celsius", TemperatureUnit.toJson .celsius), ("None", .null), ("()", .null),
   ("0", .int 0), ("-1", .int (-1)), ("vec![1,2]", .array [.int 1, .int 2])]

/-- Schemas that the functions named in `parameters` make. -/
def schemas : List (String × Schema) :=
  [("search_schema", Schema.object.withProperty "query" .string true),
   ("string_schema", .string)]

/-- What names stand for in the module of the samples. -/
def scope (file modulePath : String) (line : UInt32) : Scope where
  file
  line
  modulePath
  paramType := paramType modulePath
  value source :=
    match values.lookup (Token.squeezed source) with
    | some value => .json value
    | none => .unrepresentable "unknown expression"
  schema path := (schemas.lookup (Token.squeezed path)).getD .permissive

/-- The tool that a sample declares. -/
def Sample.declaration? (s : Sample) (scope : Scope) : Option Declaration :=
  (s.function.expandWith s.items).toOption.map fun e =>
    e.declaration scope fun bound =>
      match s.run ⟨e.toolName, bound⟩ with
      | .ok output => output.toJson
      | .error cause => pure (.error cause)

/-- The tools that the samples declare, each on a line of its own. -/
def declarations (file modulePath : String) : List Declaration :=
  all.zipIdx.filterMap fun (sample, i) =>
    sample.declaration? (scope file modulePath (i + 1).toUInt32)

end Toolbox.Samples
