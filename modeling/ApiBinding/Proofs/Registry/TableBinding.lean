import ApiBinding.Proofs.Exchange.Resolution
import ApiBinding.Proofs.Registry.Binding
import ApiBinding.Registry.Table

/-!
# What binding a table leaves

Binding a description as a table registers its functions first and then asks for the row
type.  Whatever goes wrong after the functions are registered, they stay as they are and
there is no table.  If nothing does, the operation that fetches an item has the row type
as its result, in the registry and in the table alike, and nothing else is touched.

Main results:

- Theorem `isItemFetchName_iff`: which names are those of operations that fetch an item.
- Theorem `brief_resolveTable`: binding a table sends at most one request.
- Theorem `run_resolveTable_eq_ok_iff`: when bound functions give a table, and which.
- Theorem `settles_insert`: how the table and the registry are brought in step.
- Theorem `leaves_bindTable`: the registry and the table that are left.
-/

namespace ApiBinding

/-! ## Item operations -/

/-- A text occurs in another one if it is one of its infixes. -/
theorem occursIn_iff {part text : List Char} : occursIn part text = true ↔ part <:+: text := by
  induction text with
  | nil => simp [occursIn]
  | cons c rest ih =>
      rw [occursIn, Bool.or_eq_true, List.isPrefixOf_iff_prefix, ih, List.infix_cons_iff]

/-- A name that holds the mark of fetching an item and not that of fetching a collection. -/
def FetchesItem (name : String) : Prop :=
  "GetItem".toList <:+: name.toList ∧ ¬"GetItems".toList <:+: name.toList

/-- The operations that fetch an item are found by their names. -/
theorem isItemFetchName_iff {name : String} : isItemFetchName name = true ↔ FetchesItem name := by
  rw [isItemFetchName, Bool.and_eq_true, Bool.not_eq_true', ← Bool.not_eq_true, occursIn_iff,
    occursIn_iff]
  rfl

/-- A function is the only one of a list that fetches an item. -/
def FetchesAlone (functions : List ConnectorFunction) (itemFetch : ConnectorFunction) : Prop :=
  FetchesItem itemFetch.name ∧ ∃ before after, functions = before ++ itemFetch :: after ∧
    ∀ other ∈ before ++ after, ¬FetchesItem other.name

/-- The function that fetches an item is one of the list. -/
theorem FetchesAlone.mem {functions : List ConnectorFunction} {itemFetch : ConnectorFunction}
    (h : FetchesAlone functions itemFetch) : itemFetch ∈ functions := by
  obtain ⟨_, before, after, rfl, _⟩ := h
  simp

/-- The selected function is the only one whose name is that of fetching an item. -/
theorem selectItemFetch_eq_ok_iff {functions : List ConnectorFunction}
    {itemFetch : ConnectorFunction} :
    selectItemFetch functions = .ok itemFetch ↔ FetchesAlone functions itemFetch := by
  unfold selectItemFetch
  constructor
  · intro h
    split at h
    next => cases h
    next single hfilter =>
      obtain rfl := Except.ok.inj h
      obtain ⟨before, after, rfl, hbefore, hsingle, hafter⟩ := List.filter_eq_cons_iff.1 hfilter
      refine ⟨isItemFetchName_iff.1 hsingle, before, after, rfl, fun other hother hfetches => ?_⟩
      have hname := isItemFetchName_iff.2 hfetches
      rcases List.mem_append.1 hother with hmem | hmem
      · exact hbefore other hmem hname
      · exact List.filter_eq_nil_iff.1 hafter other hmem hname
    next => cases h
  · rintro ⟨hfetches, before, after, rfl, hothers⟩
    have hnone : ∀ part : List ConnectorFunction, (∀ other ∈ part, other ∈ before ++ after) →
        part.filter (fun function => isItemFetchName function.name) = [] := fun part hpart =>
      List.filter_eq_nil_iff.2 fun other hother hname =>
        hothers other (hpart other hother) (isItemFetchName_iff.1 hname)
    have hsingle : (before ++ itemFetch :: after).filter
        (fun function => isItemFetchName function.name) = [itemFetch] := by
      rw [List.filter_append, List.filter_cons, if_pos (isItemFetchName_iff.2 hfetches),
        hnone before fun _ h => List.mem_append_left _ h,
        hnone after fun _ h => List.mem_append_right _ h]
      rfl
    rw [hsingle]

namespace Registry

variable {ι σ : Type} {registry bound : Registry} {document : Document}
  {settings : BindingSettings} {globals : GlobalValues} {functions : List ConnectorFunction}

/-! ## Tables -/

/-- Binding a table sends at most one request. -/
theorem brief_resolveTable (transport : Transport ι σ) (invoker : ι) (name : String)
    (functions : List ConnectorFunction) :
    Exchange.Brief transport (resolveTable transport invoker name functions) := by
  refine .after_quiet (Exchange.quiet_ofSchema _) fun itemFetch => ?_
  refine (Exchange.brief_resolveReturnType transport itemFetch functions _).before_quiet
    fun type => ?_
  cases type with
  | record columns => exact Exchange.quiet_pure _
  | _ => exact Exchange.quiet_throw _

/-- The table that has given columns: the bound functions, with the one that fetches an item
settled. -/
def tableWith (name : String) (functions : List ConnectorFunction) (itemFetch : ConnectorFunction)
    (columns : List (String × ValueType)) : ConnectorTable where
  name := name
  columns := columns
  functions := functions.map fun function =>
    if function.name = itemFetch.name then itemFetch.settle (.record columns) else function
  itemFetch := itemFetch.settle (.record columns)

/-- Bound functions give a table if one of them alone fetches an item and has a record for its
result type. -/
theorem run_resolveTable_eq_ok_iff {transport : Transport ι σ} {invoker : ι} {name : String}
    {state after : ExchangeState ι σ} {table : ConnectorTable} :
    (resolveTable transport invoker name functions).run state = (.ok table, after) ↔
      ∃ itemFetch columns, FetchesAlone functions itemFetch ∧
        (Exchange.resolveReturnType transport itemFetch functions (.temporary invoker)).run state =
          (.ok (.record columns), after) ∧
        table = tableWith name functions itemFetch columns := by
  constructor
  · intro h
    obtain ⟨itemFetch, hselect, hrest⟩ := (Exchange.quiet_ofSchema _).exists_of_run_bind h
    obtain ⟨type, between, hresolve, htable⟩ := Exchange.exists_of_run_bind_eq_ok hrest
    have hitem := selectItemFetch_eq_ok_iff.1 (Exchange.eq_ok_of_run_ofSchema hselect)
    cases type with
    | record columns =>
        cases htable
        exact ⟨itemFetch, columns, hitem, hresolve, rfl⟩
    | _ => cases htable
  · rintro ⟨itemFetch, columns, hitem, hresolve, rfl⟩
    rw [resolveTable, selectItemFetch_eq_ok_iff.2 hitem, Exchange.run_bind,
      Exchange.run_ofSchema]
    simp only [Except.mapError]
    rw [Exchange.run_bind, hresolve]
    rfl

/-- There is such a table whatever state the exchange is left in. -/
theorem exists_run_resolveTable_eq_ok_iff (transport : Transport ι σ) (invoker : ι)
    (name : String) (functions : List ConnectorFunction) (state : ExchangeState ι σ) :
    (∃ table, ((resolveTable transport invoker name functions).run state).1 = .ok table) ↔
      ∃ itemFetch columns, FetchesAlone functions itemFetch ∧
        ((Exchange.resolveReturnType transport itemFetch functions (.temporary invoker)).run
          state).1 = .ok (.record columns) := by
  constructor
  · rintro ⟨table, htable⟩
    obtain ⟨itemFetch, columns, hitem, hresolve, _⟩ :=
      run_resolveTable_eq_ok_iff.1 (Prod.ext htable rfl)
    exact ⟨itemFetch, columns, hitem, congrArg Prod.fst hresolve⟩
  · rintro ⟨itemFetch, columns, hitem, hresolve⟩
    have hrun : (resolveTable transport invoker name functions).run state = (.ok _, _) :=
      run_resolveTable_eq_ok_iff.2 ⟨itemFetch, columns, hitem, Prod.ext hresolve rfl, rfl⟩
    exact ⟨_, congrArg Prod.fst hrun⟩

/-- A table that comes of bound functions, and the registry that is left with it. -/
structure Settles (bound : Registry) (functions : List ConnectorFunction)
    (itemFetch : ConnectorFunction) (table : ConnectorTable) (left : Registry) : Prop where
  /-- The item is fetched by the bound function of such a name. -/
  fetches : FetchesItem itemFetch.name
  /-- It has got a record of the columns for its result type, and is not changed otherwise. -/
  settled : table.itemFetch =
    { itemFetch with returnType := .resolved (.record table.columns) }
  /-- The table has the bound functions in their order with that one settled, and no other
  one fetches an item. -/
  listed : ∃ before after, functions = before ++ itemFetch :: after ∧
    table.functions = before ++ table.itemFetch :: after ∧
      ∀ other ∈ before ++ after, ¬FetchesItem other.name
  /-- So has the registry, which is not changed otherwise. -/
  registered : ∃ before after, bound.functions = before ++ .connector itemFetch :: after ∧
    left = { bound with functions := before ++ .connector table.itemFetch :: after }
  /-- The registry and the table have the same functions under the names of the table. -/
  found : ∀ function ∈ table.functions,
    left.get? function.qualifiedName = some (.connector function)

/-- A list stays as it is if nothing in it has the name of what is put in. -/
theorem map_replace_eq_self {part : List ConnectorFunction} {function : ConnectorFunction}
    (settled : ConnectorFunction) (h : ∀ other ∈ part, other.name ≠ function.name) :
    (part.map fun other => if other.name = function.name then settled else other) = part :=
  (List.map_congr_left fun other hother => if_neg (h other hother)).trans (List.map_id part)

/-- Settling the function that fetches an item makes a table of the bound functions, and
registering it brings the registry in step with the table. -/
theorem settles_insert (hindexed : bound.IsIndexed) {namespaceName : String}
    (hnames : ∀ function ∈ functions,
      function.qualifiedName = namespaceName ++ "." ++ function.name)
    (hfound : ∀ function ∈ functions,
      bound.get? function.qualifiedName = some (.connector function))
    {itemFetch : ConnectorFunction} (hitem : FetchesAlone functions itemFetch)
    (name : String) (columns : List (String × ValueType)) :
    Settles bound functions itemFetch (tableWith name functions itemFetch columns)
      (bound.insert (.connector (itemFetch.settle (.record columns)))) := by
  have hmem := hitem.mem
  obtain ⟨hfetches, before, after, hsplit, hothers⟩ := hitem
  -- all other functions have other names, since theirs do not fetch an item
  have hne : ∀ other ∈ before ++ after, other.name ≠ itemFetch.name := fun other hother heq =>
    hothers other hother (heq ▸ hfetches)
  have hlist : (tableWith name functions itemFetch columns).functions =
      before ++ itemFetch.settle (.record columns) :: after := by
    rw [tableWith, hsplit, List.map_append, List.map_cons, if_pos rfl,
      map_replace_eq_self _ fun other h => hne other (List.mem_append_left _ h),
      map_replace_eq_self _ fun other h => hne other (List.mem_append_right _ h)]
  obtain ⟨hregistered, _⟩ := hindexed.get?_eq_some_iff.1 (hfound itemFetch hmem)
  refine ⟨hfetches, rfl, ⟨before, after, hsplit, hlist, hothers⟩, ?_, ?_⟩
  · obtain ⟨front, back, hfunctions⟩ := List.append_of_mem hregistered
    exact ⟨front, back, hfunctions, hindexed.functions_insert hfunctions rfl⟩
  · intro function hfunction
    refine (hindexed.insert _).get?_eq_some_iff.2 ⟨hindexed.mem_insert.2 ?_, rfl⟩
    rw [hlist, List.mem_append, List.mem_cons, or_left_comm, ← List.mem_append] at hfunction
    rcases hfunction with rfl | hother
    · exact Or.inl rfl
    · have hbound : function ∈ functions := by
        rw [hsplit, List.mem_append, List.mem_cons, or_left_comm, ← List.mem_append]
        exact Or.inr hother
      refine Or.inr ⟨(hindexed.get?_eq_some_iff.1 (hfound function hbound)).1, fun hsame => ?_⟩
      have hqualified : function.qualifiedName = itemFetch.qualifiedName := hsame
      rw [hnames function hbound, hnames itemFetch hmem] at hqualified
      exact hne function hother ((String.append_right_inj _).1 hqualified)

/-- Settling a function keeps the names. -/
theorem names_eq_of_settles {itemFetch : ConnectorFunction} {table : ConnectorTable}
    {left : Registry} (h : Settles bound functions itemFetch table left) :
    left.names = bound.names := by
  obtain ⟨before, after, hsplit, hleft⟩ := h.registered
  rw [hleft]
  refine names_replace hsplit ?_
  rw [h.settled]
  rfl

/-- What is left when a table was asked for: `bound` and `functions` are what binding the
description alone leaves, and `outcome` is what binding it as a table gives. -/
structure Leaves (transport : Transport ι σ) (invoker : ι) (registry bound : Registry)
    (functions : List ConnectorFunction) (name : String) (state : ExchangeState ι σ)
    (outcome : (Except ConnectorError ConnectorTable × ExchangeState ι σ) × Registry) :
    Prop where
  /-- Whatever goes wrong, the registry is the one with the bound functions. -/
  failed : ∀ error, outcome.1.1 = .error error → outcome.2 = bound
  /-- If nothing does, one of the functions is settled in the registry and in the table, with the
  columns that its result type turned out to have. -/
  succeeded : ∀ table, outcome.1.1 = .ok table → table.name = name ∧
    ∃ itemFetch, Settles bound functions itemFetch table outcome.2 ∧
      (Exchange.resolveReturnType transport itemFetch functions (.temporary invoker)).run state =
        (.ok (.record table.columns), outcome.1.2)
  /-- There is a table exactly if one of the functions alone fetches an item and its result type
  turns out to be a record. -/
  succeeds_iff : (∃ table, outcome.1.1 = .ok table) ↔
    ∃ itemFetch columns, FetchesAlone functions itemFetch ∧
      ((Exchange.resolveReturnType transport itemFetch functions (.temporary invoker)).run
        state).1 = .ok (.record columns)
  /-- Every function of the description is found under its name. -/
  found : ∀ function ∈ functions,
    bound.get? function.qualifiedName = some (.connector function)
  /-- Names keep their places, and new ones follow them. -/
  names : registry.names <+: outcome.2.names ∧ outcome.2.names = bound.names
  /-- Functions that the description does not name stay where they are. -/
  kept : ∀ (position : Nat) (other : RegisteredFunction),
    registry.functions[position]? = some other →
      other.qualifiedName ∉ functions.map ConnectorFunction.qualifiedName →
        outcome.2.functions[position]? = some other
  /-- At most one request is sent, and once the token has fired nothing happens. -/
  sent_cases : outcome.1.2.sent = state.sent ∨
    ∃ request, outcome.1.2.sent = state.sent ++ [request]
  fired : state.cancelled = true → outcome.1.2 = state

/-- Binding a description as a table leaves the registry with the bound functions, and with
one of them settled if a table comes of it; without a description it changes nothing. -/
theorem leaves_bindTable (transport : Transport ι σ) (settings : BindingSettings) (name : String)
    (globals : GlobalValues) (invoker : ι) (state : ExchangeState ι σ)
    (hbuilt : registry.IsBuilt) (hparsed : document.IsParsed) :
    registry.bindTable transport settings name none globals invoker state =
        ((.error (.call .missingDocument), state), registry) ∧
      ∃ bound functions, registry.bind settings (some document) globals = .ok (bound, functions) ∧
        Leaves transport invoker registry bound functions name state
          (registry.bindTable transport settings name (some document) globals invoker state) := by
  have hindexed := isIndexed_of_isBuilt hbuilt
  refine ⟨rfl, _, _, rfl, ?_⟩
  have hnames : ∀ function ∈ (Binder.mk document settings globals).functions,
      function.qualifiedName = settings.namespaceName ++ "." ++ function.name :=
    fun _ => qualifiedName_of_mem_functions
  have hfound : ∀ function ∈ (Binder.mk document settings globals).functions,
      (registry.insertAll ((Binder.mk document settings globals).functions.map .connector)).get?
        function.qualifiedName = some (.connector function) :=
    fun _ => get?_insertAll hindexed hparsed
  simp only [bindTable, bind]
  generalize (Binder.mk document settings globals).functions = functions at hnames hfound
  have hbound := hindexed.insertAll (functions.map .connector)
  have hfront := hindexed.prefix_names_insertAll (functions.map .connector)
  have hbrief := brief_resolveTable transport invoker name functions
  have hsent := hbrief.sent_cases state
  have hsucceeds := exists_run_resolveTable_eq_ok_iff transport invoker name functions state
  have hfired : state.cancelled = true →
      ((resolveTable transport invoker name functions).run state).2 = state :=
    hbrief.eq_of_cancelled
  rcases hrun : (resolveTable transport invoker name functions).run state with ⟨result, after⟩
  rw [hrun] at hsent hfired hsucceeds
  cases result with
  | error error =>
      exact
        { failed := fun _ _ => rfl
          succeeded := fun _ h => by cases h
          succeeds_iff := hsucceeds
          found := hfound
          names := ⟨hfront, rfl⟩
          kept := fun _ _ => getElem?_insertAll_connector hindexed
          sent_cases := hsent
          fired := hfired }
  | ok table =>
      obtain ⟨itemFetch, columns, hitem, hresolve, rfl⟩ := run_resolveTable_eq_ok_iff.1 hrun
      have hsettles := settles_insert hbound hnames hfound hitem name columns
      have hsame := names_eq_of_settles hsettles
      exact
        { failed := fun _ h => by cases h
          succeeded := fun _ h => by cases h; exact ⟨rfl, itemFetch, hsettles, hresolve⟩
          succeeds_iff := hsucceeds
          found := hfound
          names := ⟨hsame ▸ hfront, hsame⟩
          kept := fun _ _ hother hne =>
            hbound.getElem?_insert (getElem?_insertAll_connector hindexed hother hne) fun hsame =>
              hne (List.mem_map.2 ⟨itemFetch, hitem.mem, hsame.symm⟩)
          sent_cases := hsent
          fired := hfired }

/-! ## A shelf -/

/-- A description of a shelf: its items together, and a single one, of which only a sample
tells the shape. -/
def shelfDescription : Json :=
  .obj
    [("swagger", .str "2.0"), ("basePath", .str "/v1"),
      ("paths", .obj
        [("/items", .obj [("get", .obj [("operationId", .str "GetItems")])]),
          ("/item", .obj [("get", .obj
            [("operationId", .str "GetItem"),
              ("responses", .obj [("200", .obj
                [("schema", .obj [("type", .str "object")])])])])])])]

/-- An operation of the shelf, which takes nothing. -/
def shelfOperation (name path : String) : Operation where
  name := name
  method := .get
  path := path
  summary := none
  description := none
  deprecated := false
  parameters := []
  body := none
  response := none

/-- The shelf as it is read. -/
def shelfDocument : Document where
  version := .swagger2
  title := none
  basePath := "/v1"
  schemas := []
  operations :=
    [shelfOperation "GetItems" "/items",
      { shelfOperation "GetItem" "/item" with response := some (.ofType "object") }]

/-- An invoker that always replies with the same item. -/
def shelfTransport : Transport Unit Unit where
  perform _ _ _ := (.ready ⟨200, "\x7b\"title\":\"x\",\"new\":true\x7d".toUTF8.toList⟩, false, ())

/-- A registry with functions of the host, one of which has the name of an operation of the
shelf. -/
def hostRegistry : Registry :=
  empty.insertAll <| ["Len", "Shop.GetItem"].map fun name =>
    .host ⟨name, [], .resolved .blank, fun _ => .ok .null⟩

/-- The shelf is bound as a table whose rows have the shape of the item that was sent. -/
theorem leaves_bindTable_shelf : hostRegistry.IsBuilt ∧ shelfDocument.IsParsed ∧
    ∃ outcome, outcome = hostRegistry.bindTable shelfTransport { namespaceName := "Shop" } "Shelf"
        (some shelfDocument) [] () ⟨false, [], ()⟩ ∧
      outcome.1.1.toOption.map (fun table => table.type.display) =
        some "*[new:Boolean, title:Text]" ∧
      outcome.1.1.toOption.map (fun table => table.itemFetch.display) =
        some "Shop.GetItem() -> ![new:Boolean, title:Text]" ∧
      outcome.1.2.sent.length = 1 ∧
      outcome.2.names = ["Len", "Shop.GetItem", "Shop.GetItems"] ∧
      ∃ bound functions, hostRegistry.bind { namespaceName := "Shop" } (some shelfDocument) [] =
          .ok (bound, functions) ∧
        Leaves shelfTransport () hostRegistry bound functions "Shelf" ⟨false, [], ()⟩ outcome := by
  have hbuilt : hostRegistry.IsBuilt := ⟨_, rfl⟩
  have hparsed : shelfDocument.IsParsed := ⟨shelfDescription, rfl⟩
  refine ⟨hbuilt, hparsed, _, rfl, by decide +kernel, by decide +kernel, by decide +kernel,
    by decide +kernel, ?_⟩
  exact (leaves_bindTable shelfTransport _ "Shelf" [] () ⟨false, [], ()⟩ hbuilt hparsed).2

end Registry

end ApiBinding
