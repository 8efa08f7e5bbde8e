import PinBudget.Config.Cache
import PinBudget.Report.Capabilities
import PinBudget.Report.Document
import PinBudget.Service.Request
import PinBudget.Service.Target
import PinBudget.Text.Base64

/-!
The routes of the web service and their answers.
-/
namespace PinBudget.Service

structure Request where
  method : String
  target : String
  body : Option Json := none

structure Response where
  status : Nat
  body : Json

/-- Why a request is not answered with a result: its document has defects, an exception names the
status and the reason of the answer, or a fault ends it without an answer of its own. -/
inductive Refusal where
  | defects (defects : List Defect)
  | raised (status : Nat) (reason : String)
  | failure (fault : Fault)

/-- What the service reads from: a disk, and the file of its configuration. -/
structure Environment where
  disk : Disk := {}
  configPath : Option String := none

namespace Response

private def detail (status : Nat) (detail : Json) : Response :=
  ⟨status, .obj [("detail", detail)]⟩

/-- The answer to a request that cannot be handled at all. -/
private def serverError : Response := ⟨500, .str "Internal Server Error"⟩

/-- The answer with a result. Numbers that have no JSON form cannot be sent. -/
private def ofDocument (document : Json) : Response :=
  if document.isFinite && document.isWritable then ⟨200, document⟩ else serverError

/-- The answer to a request that is refused. -/
private def ofRefusal : Refusal → Response
  | .defects defects => detail 422 (.arr (defects.map Defect.document))
  | .raised status reason => detail status (.str reason)
  | .failure _ => serverError

end Response

/-- The bytes of the bytecode that is sent with a source. Text beyond ASCII is a failure; any other
text that is not base64 is refused. -/
def bytecodeOf (source : SourceFile) : Except Refusal (Option (List UInt8)) :=
  match source.bytecode with
  | none => .ok none
  | some encoded =>
    match Config.ascii encoded with
    | .error fault => .error (.failure fault)
    | .ok _ =>
      match Base64.decode? encoded.toList with
      | some bytes => .ok (some bytes)
      | none =>
        .error (.raised 422 s!"{source.sourceId}: bytecode_b64 is not valid base64")

/-- A step that can fail, as a step that can be refused. -/
private def orFail {α : Type} : Except Fault α → Except Refusal α
  | .ok value => .ok value
  | .error fault => .error (.failure fault)

private def analyzeSource (config : Except Fault Config) (wishes : Wishes) (source : SourceFile) :
    Except Refusal FileAnalysis := do
  let config ← orFail config
  let bytecode ← bytecodeOf source
  let options : AnalysisOptions :=
    { config := config
      estimate := wishes.estimate
      responseLimit := wishes.responseLimit.map .float }
  orFail (FileAnalysis.ofSource options source.text source.sourceId bytecode)

private def areDistinct : List String → Bool
  | [] => true
  | item :: rest => !rest.contains item && areDistinct rest

/-- A checked document, as a step that can be refused. -/
private def accepted {α : Type} : Checked α → Except Refusal α
  | .ok value => .ok value
  | .error defects => .error (.defects defects)

private def analyze (config : Except Fault Config) (body : Option Json) : Except Refusal Json := do
  let (source, wishes) ← accepted (readSource body)
  return (← analyzeSource config wishes source).document

private def analyzeProject (config : Except Fault Config) (body : Option Json) :
    Except Refusal Json := do
  let (sources, wishes) ← accepted (readProject body)
  if areDistinct (sources.map SourceFile.sourceId) then
    let files ← sources.mapM (analyzeSource config wishes)
    return (← orFail (Project.merge (← orFail config) files)).document
  else throw (.raised 422 "source_id values must be unique within a project")

/-- What a route does with the configuration and the document of a request. -/
private structure Route where
  method : String
  path : String
  answer : Except Fault Config → Option Json → Except Refusal Json

private def routes : List Route :=
  [⟨"POST", "/api/analyze", analyze⟩,
    ⟨"POST", "/api/analyze/project", analyzeProject⟩,
    ⟨"GET", "/api/capabilities", fun _ _ => .ok Report.capabilitiesDocument⟩,
    ⟨"GET", "/api/config", fun config _ => orFail (config.bind Config.written)⟩]

/-- The pages that describe the service. They are for reading in a browser, and their content is
left out here. -/
private def pages : List String :=
  ["/openapi.json", "/docs", "/docs/oauth2-redirect", "/redoc"]

/-- Whether a request for a path is answered at a place of the service. A line break behind the path
does not matter, nor do slashes behind both. -/
private def leadsTo (place path : String) : Bool :=
  let behind (text : List Char) : Bool := text == place.toList || text == place.toList ++ ['\n']
  let asked := path.toList
  behind asked || behind (asked.reverse.dropWhile (· == '/')).reverse

private def answerAt (config : Except Fault Config) (known : List Route) (method : String)
    (body : Option Json) : Response :=
  match known.find? fun route => route.method == method with
  | none => Response.detail 405 (.str "Method Not Allowed")
  | some route =>
    match route.answer config body with
    | .ok document => Response.ofDocument document
    | .error refusal => Response.ofRefusal refusal

private def answerPage (method : String) : Response :=
  if method == "GET" || method == "HEAD" then ⟨200, .str ""⟩
  else Response.detail 405 (.str "Method Not Allowed")

/-- The answer to a request for a path with a method. -/
private def answerPath (config : Except Fault Config) (method path : String)
    (body : Option Json) : Response :=
  match routes.filter fun route => leadsTo route.path path with
  | [] =>
    if pages.any fun page => leadsTo page path then answerPage method
    else Response.detail 404 (.str "Not Found")
  | known => answerAt config known method body

/-- The answer to a request under a configuration. A request for the head alone gets no
document. -/
private def respondWith (config : Except Fault Config) (request : Request) : Response :=
  let method := Text.upperString request.method
  let response := answerPath config method (Target.path request.target) request.body
  if method == "HEAD" then { response with body := .str "" } else response

/-- The configuration file that an environment names; an empty name is none. -/
private def configKey (environment : Environment) : Option String :=
  environment.configPath.filter fun path => !path.isEmpty

def respond (environment : Environment) (request : Request) : Response :=
  respondWith (Config.load environment.disk {} (configKey environment)).result request

end PinBudget.Service
