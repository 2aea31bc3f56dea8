import ApiBinding.Proofs.Function.Routing
import ApiBinding.Proofs.Uri.Segments

/-!
# Integrity of paths

The path of a request is made of the segments of the base path and of those of the
template, with the texts of the path inputs put in.  A slash or a percent sign in such
a text stays inside its segment.  The segments are read back as they were put in
exactly if all of them are kept; a text of one or two dots is not, nor is one with a
character that addresses drop, so that such a text can lead out of its segment.

Main results:

- Theorem `pathAndQuery_eq`: a request's path is pushed together from filled segments.
- Theorem `pathPieces_eq_iff_areKept`: exactly when the path of a request reads as the
  filled segments.
-/

namespace ApiBinding

/-- The decoded pieces of the path of a request. -/
def Request.pathPieces (request : Request) : List (List UInt8) :=
  Uri.readPieces request.pathAndQuery.toList

namespace ConnectorFunction

variable {function : ConnectorFunction} {arguments : List Value}

/-- The segments of the base path and of the template, with the texts of the path inputs
of a call in place of their placeholders. -/
def filledSegments (function : ConnectorFunction) (arguments : List Value) : List (List Char) :=
  Text.slashParts function.basePath.toList ++
    (Text.slashParts function.path.toList).map
      (fillSegment (Delivery.textsAt .path (function.deliveries arguments)))

/-- What follows the path of a request starts with a question mark. -/
theorem query_head (query : List (String × String)) :
    (if query.isEmpty then [] else '?' :: Text.formText query) = [] ∨
      (if query.isEmpty then [] else '?' :: Text.formText query).head? = some '?' := by
  cases query with
  | nil => exact Or.inl rfl
  | cons pair rest => exact Or.inr rfl

/-- The path of a request is pushed together from the filled segments. -/
theorem pathAndQuery_eq {request : Request}
    (hbuild : function.buildRequest arguments = .ok request) :
    request.pathAndQuery.toList =
      Uri.pathText ((function.filledSegments arguments).foldl Uri.push []) ++
        (if (Delivery.textsAt .query (function.deliveries arguments)).isEmpty then []
          else '?' :: Text.formText (Delivery.textsAt .query (function.deliveries arguments))) := by
  obtain ⟨_, _, rfl⟩ := buildRequest_eq_ok_iff.1 hbuild
  simp only [requestOf, requestPath, String.toList_ofList, filledSegments, List.foldl_append]

/-- In every call that is accepted, the path of the request reads as the filled segments
exactly if all of them are kept. -/
theorem pathPieces_eq_iff_areKept {request : Request}
    (hbuild : function.buildRequest arguments = .ok request) :
    request.pathPieces = Uri.segmentBytes (function.filledSegments arguments) ↔
      Uri.AreKept (function.filledSegments arguments) := by
  rw [Request.pathPieces, pathAndQuery_eq hbuild]
  exact Uri.readPieces_foldl_push_eq_iff (query_head _)

end ConnectorFunction

namespace Binder

/-- A slash and a percent sign stay inside the segment of an item. -/
theorem pathPieces_store : ∃ request : Request,
    request =
        { method := .post
          pathAndQuery := "/v1/items/50%25%2F..?version=2"
          headers := [("connectionId", "c")]
          body := some (.obj [("id", .str "x")]) } ∧
      (storeBinder.describe storeOperation).buildRequest [.str "50%/..", .str "x"] =
        .ok request ∧
      request.pathPieces = Uri.segmentBytes
        ((storeBinder.describe storeOperation).filledSegments [.str "50%/..", .str "x"]) :=
  ⟨_, rfl, rfl, (ConnectorFunction.pathPieces_eq_iff_areKept rfl).2 (by decide)⟩

/-- An item called by two dots is lost: the request goes to the collection of items. -/
theorem pathPieces_store_dots : ∃ request : Request,
    request =
        { method := .post
          pathAndQuery := "/v1/items?version=2"
          headers := [("connectionId", "c")]
          body := some (.obj [("id", .str "x")]) } ∧
      (storeBinder.describe storeOperation).buildRequest [.str "..", .str "x"] = .ok request ∧
      request.pathPieces ≠ Uri.segmentBytes
        ((storeBinder.describe storeOperation).filledSegments [.str "..", .str "x"]) :=
  ⟨_, rfl, rfl, by decide⟩

end Binder

end ApiBinding
