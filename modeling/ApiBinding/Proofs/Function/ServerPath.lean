import ApiBinding.Proofs.Document.Operations
import ApiBinding.Proofs.Function.QueryFidelity
import ApiBinding.Proofs.Uri.BasePath

/-!
# Paths of servers

The base path of a description of version 3 is the path of its first server, as the address
writes it, without the slashes at its end.  A request writes its parts again, so that what is
encoded in the address is encoded twice, and a part that is empty is lost.  What stands behind
the base path leaves it alone, unless an input climbs.

Main results:

- Theorem `basePath_of_isServedAt`: the base path of a description that is read.
- Theorem `givesBase_of_isServedAt`: every request to a remote server begins with the parts of
  the server's path written again, and so with that path itself exactly if it has neither a
  percent sign nor an empty segment.
-/

namespace ApiBinding

namespace Document

/-- A description of version 3 whose first server has an address. -/
def IsServedAt (document : Document) (address : String) : Prop :=
  document.version = .openApi3 ∧ ∃ json declared, ofJson json = .ok document ∧
    DocumentDeclaration.ofJson? json = some declared ∧ declared.servers.head? = some address

/-- The base path of a description that is read is the one that its declaration gives. -/
theorem basePath_of_ofDeclaration {declared : DocumentDeclaration} {document : Document}
    (h : ofDeclaration declared = .ok document) :
    document.basePath = readBasePath document.version declared := by
  obtain ⟨version, _, h⟩ := Traversal.bind_eq_ok_iff.1 h
  obtain ⟨groups, _, h⟩ := Traversal.bind_eq_ok_iff.1 h
  dsimp only at h
  split at h
  · cases h
  · obtain rfl := Except.ok.inj h
    rfl

/-- The base path of a description is the path of its first server without slashes at its
end. -/
theorem basePath_of_isServedAt {document : Document} {address : String} {path : List Char}
    (hserved : document.IsServedAt address) (hpath : Uri.absolutePath? address.toList = some path) :
    document.basePath.toList = Text.dropWhileEnd (· = '/') path := by
  obtain ⟨hversion, json, declared, hread, hdeclared, hserver⟩ := hserved
  rw [ofJson, hdeclared] at hread
  rw [basePath_of_ofDeclaration hread, hversion, readBasePath, hserver, Option.map_some,
    Option.getD_some, Uri.serverPath, hpath, String.toList_ofList, String.toList_ofList]

end Document

namespace ConnectorFunction

/-- The segments of the template of a function, with the texts of the path inputs of a call in
place of their placeholders. -/
def filledTemplate (function : ConnectorFunction) (arguments : List Value) : List (List Char) :=
  (Text.slashParts function.path.toList).map
    (fillSegment (Delivery.textsAt .path (function.deliveries arguments)))

end ConnectorFunction

namespace Binder

variable {binder : Binder} {operation : Operation} {arguments : List Value}

/-- Every request to a server with a remote address begins with the parts of the server's path
written again, and so with that path itself exactly if it has neither a percent sign nor an
empty segment, unless an input climbs. -/
theorem givesBase_of_isServedAt {address : String} {path : List Char} {request : Request}
    (hserved : binder.document.IsServedAt address) (hremote : Uri.IsRemote address.toList)
    (hpath : Uri.absolutePath? address.toList = some path)
    (hbuild : (binder.describe operation).buildRequest arguments = .ok request)
    (hstays : ∀ segment ∈ (binder.describe operation).filledTemplate arguments,
      ¬Uri.Climbs segment) :
    Uri.GivesBase (Text.dropWhileEnd (· = '/') path) request.pathText := by
  obtain ⟨segments, hnormal, rfl⟩ := Uri.exists_segments_of_isRemote hremote hpath
  have hbase : (binder.describe operation).basePath.toList =
      Text.dropWhileEnd (· = '/') (Uri.pathText segments) :=
    Document.basePath_of_isServedAt hserved hpath
  rw [ConnectorFunction.pathText_eq hbuild, ConnectorFunction.filledSegments, hbase]
  exact Uri.givesBase_foldl_push hnormal hstays

/-! ## Sales -/

/-- A description of sales, whose only operation gets an item by its name. -/
def salesDescription (address : String) : Json :=
  .obj
    [("openapi", .str "3.0.0"), ("servers", .arr [.obj [("url", .str address)]]),
      ("paths", .obj [("/items/\x7bid\x7d", .obj [("get", .obj
        [("operationId", .str "GetItem"),
          ("parameters", .arr
            [.obj [("name", .str "id"), ("in", .str "path"), ("type", .str "string")]])])])])]

/-- The operation that gets an item. -/
def itemOperation : Operation where
  name := "GetItem"
  method := .get
  path := "/items/\x7bid\x7d"
  summary := none
  description := none
  deprecated := false
  parameters := [{ storeParameter "id" .path with required := true }]
  body := none
  response := none

/-- A connector of the sales with a base path. -/
def salesBinder (basePath : String) : Binder where
  document :=
    { version := .openApi3
      title := none
      basePath
      schemas := []
      operations := [itemOperation] }
  settings := { namespaceName := "Sales" }
  globals := []

/-- The sales are read with the path of the address that serves them. -/
theorem isServedAt_salesBinder {address basePath : String} {path : List Char}
    (hpath : Uri.absolutePath? address.toList = some path)
    (hbase : String.ofList (Text.dropWhileEnd (· = '/') path) = basePath) :
    (salesBinder basePath).document.IsServedAt address := by
  have hserver : Uri.serverPath address = String.ofList path := by rw [Uri.serverPath, hpath]
  have hread : Document.ofJson (salesDescription address) =
      .ok (salesBinder (String.ofList (Text.dropWhileEnd (· = '/')
        (Uri.serverPath address).toList))).document := rfl
  rw [hserver, String.toList_ofList, hbase] at hread
  exact ⟨rfl, salesDescription address, _, hread, rfl, rfl⟩

/-- At an address without percent signs and empty segments the base path is sent as it is. -/
theorem givesBase_sales : ∃ request : Request,
    request =
        { method := .get
          pathAndQuery := "/sales/v1/items/a%2Fb"
          headers := []
          body := none } ∧
      (salesBinder "/sales/v1").document.IsServedAt "https://api/sales/v1/" ∧
      ((salesBinder "/sales/v1").describe itemOperation).buildRequest [.str "a/b"] =
        .ok request ∧
      Uri.GivesBase "/sales/v1".toList request.pathText := by
  have hpath : Uri.absolutePath? "https://api/sales/v1/".toList =
      some "/sales/v1/".toList := by decide +kernel
  have hremote : Uri.IsRemote "https://api/sales/v1/".toList :=
    Uri.isRemote_of_web (Or.inr rfl) "//api/sales/v1/".toList
  have hserved : (salesBinder "/sales/v1").document.IsServedAt
      "https://api/sales/v1/" := isServedAt_salesBinder hpath (by decide)
  have hbuild : ((salesBinder "/sales/v1").describe itemOperation).buildRequest [.str "a/b"] =
      .ok
        { method := .get
          pathAndQuery := "/sales/v1/items/a%2Fb"
          headers := []
          body := none } := rfl
  exact ⟨_, rfl, hserved, hbuild, givesBase_of_isServedAt hserved hremote hpath hbuild (by decide)⟩

/-- At an address with an encoded blank the percent sign of its path is encoded again, and the
request does not begin with that path. -/
theorem salesData_not_asStated : ∃ request : Request,
    request =
        { method := .get
          pathAndQuery := "/sales%2520data/v1/items/7"
          headers := []
          body := none } ∧
      (salesBinder "/sales%20data/v1").document.IsServedAt
        "https://api/sales%20data/v1" ∧
      Uri.IsRemote "https://api/sales%20data/v1".toList ∧
      Uri.absolutePath? "https://api/sales%20data/v1".toList =
        some "/sales%20data/v1".toList ∧
      ((salesBinder "/sales%20data/v1").describe itemOperation).buildRequest [.str "7"] =
        .ok request ∧
      ¬"/sales%20data/v1".toList <+: request.pathText := by
  have hpath : Uri.absolutePath? "https://api/sales%20data/v1".toList =
      some "/sales%20data/v1".toList := by decide +kernel
  have hremote : Uri.IsRemote "https://api/sales%20data/v1".toList :=
    Uri.isRemote_of_web (Or.inr rfl) "//api/sales%20data/v1".toList
  exact ⟨_, rfl, isServedAt_salesBinder hpath (by decide), hremote, hpath, rfl, by decide⟩

end Binder

end ApiBinding
