import SearchRequest.Json.Literal
import SearchRequest.Json.Shape
import SearchRequest.Kind

/-!
Why an operation fails. A failure is a cause; its wording is in the `message` functions alone.
-/

namespace SearchRequest

/-- What answers a search: a value, or an object that carries the value as its body. -/
inductive Payload
  | plain (value : Json)
  | wrapped (value : Json)
deriving DecidableEq, Repr, Inhabited

namespace Payload

def body : Payload → Json
  | .plain value => value
  | .wrapped value => value

/-- An object that carries a body is never empty. -/
def truthy : Payload → Bool
  | .plain value => value.truthy
  | .wrapped _ => true

end Payload

/-- The sentence that names the values an argument may take, in the order of the alphabet. -/
def oneOf (subject : String) (choices : List String) : String :=
  let listed := (Json.strings choices).literal
  s!"{subject} 必须是 {listed} 之一"

inductive ClauseFault
  | blankText (name : String)
  | missingValue (name : String)
  | notList (name : String)
  | noIds
  | badId (value : Json)
  | corners
  | fewVertices
  | scoreMode (choices : List String)
  | noFields
deriving DecidableEq, Repr

def ClauseFault.message : ClauseFault → String
  | .blankText name => s!"{name} 必须是非空字符串"
  | .missingValue name => s!"{name} 不能为空"
  | .notList name => s!"{name} 必须是列表"
  | .noIds => "至少需要一个文档 ID"
  | .badId value => "非法的文档 ID: " ++ value.literal
  | .corners => "边界框必须由 2 个或 4 个地理点组成"
  | .fewVertices => "多边形至少需要 3 个顶点"
  | .scoreMode choices => oneOf "score_mode" choices
  | .noFields => "至少需要一个字段"

inductive AggregationFault
  | blankField
  | noSource
  | noValues
  | interval
  | direction
  | noFormat
  | noOrigin
  | noRanges
  | badRange (value : Json)
  | unbounded (value : Json)
deriving DecidableEq, Repr

def AggregationFault.message : AggregationFault → String
  | .blankField => "field 必须是非空字符串"
  | .noSource => "需要 field 或 script"
  | .noValues => "values 不能为空"
  | .interval => "interval 必须是正数"
  | .direction => "order_direction 必须是 asc 或 desc"
  | .noFormat => "format 不能为空"
  | .noOrigin => "origin 不能为空"
  | .noRanges => "至少需要一个范围"
  | .badRange value => "无法识别的范围: " ++ value.literal
  | .unbounded value => "范围缺少边界: " ++ value.literal

inductive ArgumentFault
  | notCount (name : String) (value : Json)
  | blankName (name : String) (value : Json)
  | notNumber (name : String) (value : Json)
  | notCallable (name : String)
  | notList (name : String) (value : Json)
  | notObject (name : String) (value : Json)
  | order (value : Json)
  | highlightOptions (field : String) (value : Json)
  | limit (value : Json)
  | page (value : Json)
  | pageSize
  | pageNumber
  | choice (name : String) (choices : List String)
  | factorField
  | decayKind (choices : List String)
  | decayField
  | decayScale
  | weight
  | seedAlone
  | noScript
  | blankAlias
  | aggregation (kind : AggregationKind) (name : String) (fault : AggregationFault)
  | typeWithoutIndex
deriving DecidableEq, Repr

def ArgumentFault.message : ArgumentFault → String
  | .notCount name value => s!"{name} 必须是非负整数，实际为 " ++ value.literal
  | .blankName name value => s!"{name} 必须是非空字符串，实际为 " ++ value.literal
  | .notNumber name value => s!"{name} 必须是数值，实际为 " ++ value.literal
  | .notCallable name => s!"{name} 必须是可调用对象"
  | .notList name value => s!"{name} 必须是列表，实际为 " ++ value.literal
  | .notObject name value => s!"{name} 必须是映射，实际为 " ++ value.literal
  | .order value => "order 必须是 asc 或 desc，实际为 " ++ value.literal
  | .highlightOptions field value =>
      s!"高亮字段 {field} 的参数必须是映射，实际为 " ++ value.literal
  | .limit value => "limit 必须是正整数，实际为 " ++ value.literal
  | .page value => "page 必须是大于等于 1 的整数，实际为 " ++ value.literal
  | .pageSize => "page_size 必须是正整数"
  | .pageNumber => "page 必须是大于等于 1 的整数"
  | .choice name choices => oneOf name choices
  | .factorField => "field_value_factor 需要非空字段名"
  | .decayKind choices =>
      let listed := (Json.strings choices).literal
      s!"衰减类型必须是 {listed} 之一"
  | .decayField => "衰减函数需要非空字段名"
  | .decayScale => "衰减函数必须设置 scale"
  | .weight => "weight 必须是数值"
  | .seedAlone => "random_score 设置 seed 时必须同时指定 field"
  | .noScript => "script_score 需要非空脚本"
  | .blankAlias => "聚合别名必须是非空字符串"
  | .aggregation kind name fault =>
      let label := kind.name
      let detail := fault.message
      s!"[{label}:{name}] {detail}"
  | .typeWithoutIndex => "指定 type 时必须同时指定 index"

inductive ResponseFault
  | notObject
  | noHits
  | noTotal
  | noHitList
  | noTotalValue
  | badTotal (value : Json)
  | badHit (hit : Json)
deriving DecidableEq, Repr

def ResponseFault.message : ResponseFault → String
  | .notObject => "响应必须是对象"
  | .noHits => "响应缺少 hits 字段"
  | .noTotal => "响应缺少 hits.total 字段"
  | .noHitList => "响应缺少 hits.hits 列表"
  | .noTotalValue => "hits.total 缺少 value 字段"
  | .badTotal value => "hits.total 必须是非负整数，实际为 " ++ value.literal
  | .badHit hit => "命中项必须是对象，实际为 " ++ hit.kindName

inductive TransportFault
  | connection
  | timeout
  | transport
  | api
  | notFound
deriving DecidableEq, Repr

inductive SettingFault
  | text
  | hosts
  | wholeType
  | wholeText
  | wholePart
  | wholeSize
  | notFinite
  | tooSmall
  | numberType
  | numberText
  | flagType
  | flagText
  | literal
  | member
deriving DecidableEq, Repr

inductive FileFault
  | character
  /-- A line in one of its texts begins like a new document. -/
  | separator
  /-- A key is too long, or runs over more than one line. -/
  | key
  | depth
deriving DecidableEq, Repr

inductive Failure
  | argument (fault : ArgumentFault)
  | clause (kind : ClauseKind) (fault : ClauseFault)
  | response (fault : ResponseFault) (answer : Payload)
  | settings (faults : List (String × SettingFault))
  | file (fault : FileFault)
  | source
  | commandLine
  | disconnected
  | transport (fault : TransportFault) (message : String)
  | foreign (message : String)
  /-- Such an error of a kind that is not told apart further and goes by its name. -/
  | other (kind : String)
  /-- A value of a kind that the operation has no use for, or arguments that do not fit it. -/
  | wrongKind
  /-- A value of the right kind whose content does not read as what is asked for. -/
  | wrongContent
  | unknownName
  | outOfRange
  /-- A value, or a builder, that does not have the operation. -/
  | noOperation
  | system
deriving DecidableEq, Repr

namespace Failure

def isTransport : Failure → Bool
  | .transport .. => true
  | _ => false

def ofEntryFault : Json.EntryFault → Failure
  | .notSequence => .wrongKind
  | .notPair => .wrongContent

def message : Failure → String
  | .argument fault => fault.message
  | .clause kind fault =>
      let label := kind.name
      let detail := fault.message
      s!"[{label}] {detail}"
  | .response fault _ => fault.message
  | .disconnected => "SearchBuilder has no connection. Pass one to execute queries."
  | .transport _ message => message
  | .foreign message => message
  | _ => ""

end Failure

namespace Json

/-- The entries of a value that has to read as an object. -/
def asEntries (value : Json) : Except Failure Object :=
  value.entries.mapError Failure.ofEntryFault

def asTable (value : Json) : Except Failure Table :=
  value.pairs.mapError Failure.ofEntryFault

def asObject : Json → Except Failure Object
  | .obj entries => .ok entries
  | _ => .error .wrongKind

def asElements (value : Json) : Except Failure (List Json) :=
  match value.elements? with
  | some items => .ok items
  | none => .error .wrongKind

/-- Whether a scalar is one of the texts; a list or an object cannot be looked up at all. -/
def isAmong (value : Json) (choices : List String) : Except Failure Bool :=
  if value.isScalar then
    .ok (match value with
      | .str text => choices.contains text
      | _ => false)
  else .error .wrongKind

end Json

end SearchRequest
