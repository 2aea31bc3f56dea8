import ApiBinding.Document.Declaration
import ApiBinding.Document.Fault
import ApiBinding.Json.Printer
import ApiBinding.Json.Reader
import ApiBinding.Text.Blank
import ApiBinding.Text.CharacterClass
import ApiBinding.Text.Parts
import ApiBinding.Uri.Server
import ApiBinding.Yaml.Reader

/-!
# Reading descriptions

The declarations of a description are brought to one form.  Parameters of a path
item come before those of an operation, and of two with the same name and location
the later one counts.  Bodies are taken from parameters or from the declared body,
which wins.  The reply's schema is that of the first successful response, else of
the default one.

A description is written in JSON or in YAML.  A text whose first character that is
not blank is an opening brace is taken for JSON.
-/

namespace ApiBinding

namespace Document

/-- The name of an operation that declares none: its method and the segments of its
path, with what is neither letter nor digit replaced and braces dropped. -/
def derivedName (method : HttpMethod) (path : String) : String :=
  let shown := fun segment : List Char =>
    '_' :: (segment.filter fun c => c ≠ '\x7b' ∧ c ≠ '\x7d').map fun c =>
      if Text.isAlphanumeric c then c else '_'
  String.ofList (method.key.toList ++ (Text.slashParts path.toList).flatMap shown)

/-- The name of a shared parameter in a reference. -/
def sharedName (reference : String) : String :=
  let cs := reference.toList
  String.ofList (((stripStart? "#/parameters/".toList cs).or
    (stripStart? "#/components/parameters/".toList cs)).getD cs)

/-- The declaration that a declaration stands for: itself, or the shared one it refers
to. -/
def follow (shared : List (String × ParameterDeclaration)) (declaration : ParameterDeclaration) :
    Except DocumentFault ParameterDeclaration :=
  match declaration.reference with
  | none => .ok declaration
  | some reference =>
    match Entries.find? (sharedName reference) shared with
    | some target => .ok target
    | none => .error (.unresolvedParameter reference)

/-- Add a declaration at the end in place of those of the same name and location. -/
def override (declarations : List ParameterDeclaration) (added : ParameterDeclaration) :
    List ParameterDeclaration :=
  declarations.filter (fun declaration =>
    !(declaration.name == added.name && declaration.location == added.location)) ++ [added]

/-- The declarations with those that a later one takes the place of left out. -/
def overrideAll (declarations : List ParameterDeclaration) : List ParameterDeclaration :=
  declarations.foldl override []

/-- The declarations of an operation, with references followed. -/
def mergedDeclarations (shared : List (String × ParameterDeclaration))
    (declarations : List ParameterDeclaration) :
    Except DocumentFault (List ParameterDeclaration) := do
  let followed ← declarations.mapM (follow shared)
  return overrideAll followed

/-- The parameter of a declaration, if its location is that of one. -/
def parameter? (declaration : ParameterDeclaration) : Option Parameter :=
  (declaration.location.bind ParameterLocation.ofText?).map declaration.toParameter

/-- The body of a declaration, if its location is the body. -/
def bodyParameter? (declaration : ParameterDeclaration) : Option RequestBody :=
  if declaration.location = some "body" then
    some ⟨declaration.name.getD "", declaration.required, declaration.schema.getD {}⟩
  else none

/-- The schema of a media type. -/
def mediaSchema? (media : Json) : Option Schema := do
  let fields ← Fields.ofJson? ["schema"] media
  let schema ← fields.optional? "schema" Schema.ofJson?
  schema

/-- The schema of the JSON media type, else of the first media type that has one. -/
def contentSchema? (content : List (String × Json)) : Option Schema :=
  ((Entries.find? "application/json" content).bind mediaSchema?).or
    (content.findSome? fun media => mediaSchema? media.2)

/-- The body of an operation. -/
def requestBody? (declarations : List ParameterDeclaration) (declared : Option BodyDeclaration) :
    Option RequestBody :=
  let fromContent := declared.bind fun body =>
    (contentSchema? body.content).map fun schema =>
      (⟨body.name.getD "body", body.required, schema⟩ : RequestBody)
  fromContent.or (declarations.filterMap bodyParameter?).getLast?

/-- The response that describes success. -/
def successResponse? (responses : List (String × Json)) : Option Json :=
  ((responses.find? fun response => response.1.toList.head? == some '2').or
    (responses.find? fun response => response.1 == "default")).map Prod.snd

/-- The schema of a response; a malformed response has none. -/
def responseSchema? (version : DescriptionVersion) (response : Json) : Option Schema := do
  let fields ← Fields.ofJson? ["schema", "content"] response
  let schema ← fields.optional? "schema" Schema.ofJson?
  let content ← fields.defaulted? "content" [] Json.members?
  match version with
  | .swagger2 => schema
  | .openApi3 => contentSchema? content

/-- The operation of one method of a path. -/
def readOperation (version : DescriptionVersion) (shared : List (String × ParameterDeclaration))
    (path : String) (common : List ParameterDeclaration) (entry : HttpMethod × Json) :
    Except DocumentFault Operation :=
  match OperationDeclaration.ofJson? entry.2 with
  | none => .error (.malformedOperation entry.1 path)
  | some declared => do
    let declarations ← mergedDeclarations shared (common ++ declared.parameters)
    return {
      name := declared.name.getD (derivedName entry.1 path)
      method := entry.1
      path
      summary := declared.summary
      description := declared.description
      deprecated := declared.deprecated
      parameters := declarations.filterMap parameter?
      body := requestBody? declarations declared.body
      response := (successResponse? declared.responses).bind (responseSchema? version) }

/-- The operations of a path. -/
def readPath (version : DescriptionVersion) (shared : List (String × ParameterDeclaration))
    (entry : String × Json) : Except DocumentFault (List Operation) :=
  match PathItem.ofJson? entry.2 with
  | none => .error (.malformedPathItem entry.1)
  | some item => item.methods.mapM (readOperation version shared entry.1 item.parameters)

/-- Whether a path is an extension and no path. -/
def isExtension (path : String) : Bool :=
  "x-".toList.isPrefixOf path.toList

/-- The first name that stands in a list again. -/
def firstRepeated? : List String → List String → Option String
  | _, [] => none
  | seen, name :: rest => if seen.contains name then some name else firstRepeated? (name :: seen) rest

/-- The text of a version: a string as it is, anything else as JSON. -/
def versionText : Json → String
  | .str text => text
  | json => json.render

/-- The version of a description. -/
def readVersion (swagger openApi : Option String) : Except DocumentFault DescriptionVersion :=
  let starts := fun (text : Option String) (digit : Char) =>
    (text.bind fun t => t.toList.head?) == some digit
  if starts swagger '2' then .ok .swagger2
  else if starts openApi '3' then .ok .openApi3
  else .error (.unsupportedVersion swagger openApi)

/-- The base path of a description. -/
def readBasePath (version : DescriptionVersion) (declared : DocumentDeclaration) : String :=
  let path := match version with
    | .swagger2 => declared.basePath.getD ""
    | .openApi3 => (declared.servers.head?.map Uri.serverPath).getD ""
  String.ofList (Text.dropWhileEnd (· = '/') path.toList)

/-- The description of a declaration. -/
def ofDeclaration (declared : DocumentDeclaration) : Except DocumentFault Document := do
  let version ← readVersion (declared.swagger.map versionText) (declared.openApi.map versionText)
  let paths := declared.paths.filter fun entry => !isExtension entry.1
  let operations ← paths.mapM (readPath version declared.parameters)
  let operations := operations.flatten
  match firstRepeated? [] (operations.map Operation.name) with
  | some name => .error (.repeatedOperation name)
  | none =>
    return {
      version
      title := declared.title
      basePath := readBasePath version declared
      schemas := declared.schemas
      operations }

/-- The description that a JSON value writes. -/
def ofJson (json : Json) : Except DocumentFault Document :=
  match DocumentDeclaration.ofJson? json with
  | none => .error .malformed
  | some declared => ofDeclaration declared

/-! ## Texts of descriptions -/

/-- The description in a JSON text. -/
def ofJsonText (text : String) : Except DocumentFault Document :=
  match Json.parse? text.toList with
  | some json => ofJson json
  | none => .error .notJson

/-- The description in a YAML text. -/
def ofYamlText (text : String) : Except DocumentFault Document :=
  match Yaml.parse? text.toList with
  | some json => ofJson json
  | none => .error .notYaml

/-- The description in a text of either form. -/
def ofText (text : String) : Except DocumentFault Document :=
  if (Text.trimStart text.toList).head? == some '\x7b' then ofJsonText text else ofYamlText text

end Document

end ApiBinding
