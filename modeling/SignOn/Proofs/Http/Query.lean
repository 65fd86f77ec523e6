import SignOn.Google.Exchange
import SignOn.Http.Result
import SignOn.Proofs.Http.Reference
import SignOn.Proofs.Text.Percent
/-!
A URL gives back what was put into its query. Fields are written behind the pieces that the query
has already, each as a piece of its own; whoever takes the query apart finds those pieces as they
were, and then the fields with their names and values, however a plus is read (`GivesBack`). So the
values cannot be mistaken for anything else, whatever texts they are: `query_exact`, for the place
to which a browser goes with its tokens, and for the page of Google to which it is sent.
-/

namespace SignOn.Http

open SignOn.Text

/-! ## Taking a query apart -/

/-- The query of a URL: what stands behind the first question mark, up to a number sign. -/
def query? (url : String) : Option (List Char) :=
  let front := (splitAtFirst? (· == '#') url.toList).elim url.toList (·.1)
  (splitAtFirst? (· == '?') front).map (·.2)

/-- The pieces of the query of a URL. Where there is no query, there is no piece. -/
def queryPieces (url : String) : List (List Char) := (query? url).elim [] (pieces (· == '&'))

/-- The field that a piece spells, if a plus stands for a certain character: for a space in a form,
and for itself elsewhere. -/
def fieldAs (plus : Char) (piece : List Char) : Field :=
  let decode (cs : List Char) := Percent.decodeText (cs.map fun c => if c == '+' then plus else c)
  match splitAtFirst? (· == '=') piece with
  | some (name, value) => (decode name, decode value)
  | none => (decode piece, "")

theorem fieldAs_space : fieldAs ' ' = Query.fieldOf := rfl

/-- What is found in the query of a URL to which fields were added. -/
structure GivesBack (before after : String) (fields : List Field) : Prop where
  /-- The pieces that were there stand in front of those of the fields. -/
  pieces : queryPieces after = queryPieces before ++ fields.map Query.pieceOf
  /-- They say what they have said, and the others give back the fields. -/
  read (plus : Char) :
    (queryPieces after).map (fieldAs plus) = (queryPieces before).map (fieldAs plus) ++ fields
  /-- The service itself, which passes over empty pieces, reads the query so, too. -/
  parsed : Query.parse ((query? after).getD []) = Query.parse ((query? before).getD []) ++ fields
  /-- What stands around the query is as it was. -/
  front : (Reference.parts after.toList).1 = (Reference.parts before.toList).1
  fragment : '#' ∉ after.toList

/-! ## Pieces of fields -/

/-- A name without characters that mean anything in a URL. -/
def IsUnreservedName (name : String) : Prop := ∀ c ∈ name.toList, Percent.isUnreserved c = true

instance (name : String) : Decidable (IsUnreservedName name) :=
  List.decidableBAll (fun c => Percent.isUnreserved c = true) name.toList

variable {field : Field} {fields : List Field} {url : String}

theorem IsUnreservedName.isPlainName {name : String} (h : IsUnreservedName name) :
    IsPlainName name := fun c hc => isQueryChar_of_unreserved (h c hc)

/-- A sign that does not stand in names or values, nor between them. -/
def IsForeign (c : Char) : Prop := Percent.isUnreserved c = false ∧ c ≠ '%'

theorem not_mem_encodeValue {c : Char} (h : IsForeign c) (value : String) :
    c ∉ Percent.encodeValue value := by
  intro hc
  rcases Percent.mem_encodeValue hc with hc | hc
  · rw [h.1] at hc
    cases hc
  · exact h.2 hc

theorem IsUnreservedName.not_mem {name : String} (h : IsUnreservedName name) {c : Char}
    (hc : Percent.isUnreserved c = false) : c ∉ name.toList := by
  intro hin
  rw [h c hin] at hc
  cases hc

theorem not_mem_pieceOf (hname : IsUnreservedName field.1) {c : Char} (h : IsForeign c)
    (hc : c ≠ '=') : c ∉ Query.pieceOf field := by
  rw [Query.pieceOf, List.mem_append, List.mem_cons, not_or, not_or]
  exact ⟨hname.not_mem h.1, hc, not_mem_encodeValue h _⟩

/-- A piece gives back its field. -/
theorem fieldAs_pieceOf (hname : IsUnreservedName field.1) (plus : Char) :
    fieldAs plus (Query.pieceOf field) = field := by
  have hplus {cs : List Char} (h : '+' ∉ cs) :
      cs.map (fun c => if c == '+' then plus else c) = cs := by
    refine (List.map_congr_left fun c hc => if_neg ?_).trans (List.map_id cs)
    rw [beq_iff_eq]
    rintro rfl
    exact h hc
  have hequals : ∀ c ∈ field.1.toList, (c == '=') = false := by
    intro c hc
    rw [beq_eq_false_iff_ne]
    rintro rfl
    exact hname.not_mem (by decide) hc
  have hsplit := splitAtFirst?_append (p := (· == '=')) (c := '=') rfl hequals
    (Percent.encodeValue field.2)
  have hvalue : '+' ∉ Percent.encodeValue field.2 := not_mem_encodeValue ⟨by decide, by decide⟩ _
  have hpercent : '%' ∉ field.1.toList := hname.not_mem (by decide)
  rw [fieldAs, Query.pieceOf, hsplit]
  dsimp only
  rw [hplus (hname.not_mem (by decide)), hplus hvalue, Percent.decodeText_encodeValue,
    Percent.decodeText_of_plain hpercent, String.ofList_toList]

/-- What is joined is taken apart again. -/
theorem pieces_join {ps : List (List Char)} (hne : ps ≠ []) (h : ∀ p ∈ ps, '&' ∉ p) :
    pieces (· == '&') (Query.join ps) = ps := by
  have hfree {p : List Char} (hp : '&' ∉ p) : ∀ c ∈ p, (c == '&') = false := by
    intro c hc
    rw [beq_eq_false_iff_ne]
    rintro rfl
    exact hp hc
  fun_induction Query.join ps with
  | case1 => exact absurd rfl hne
  | case2 piece => exact pieces_of_all_not (hfree (h piece List.mem_cons_self))
  | case3 piece rest hrest ih =>
    rw [pieces_append rfl, pieces_of_all_not (hfree (h piece List.mem_cons_self)),
      ih (by simpa using hrest) fun p hp => h p (List.mem_cons_of_mem _ hp)]
    rfl

theorem pieces_write (hne : fields ≠ []) (hnames : ∀ field ∈ fields, IsUnreservedName field.1) :
    pieces (· == '&') (Query.write fields) = fields.map Query.pieceOf := by
  refine pieces_join (by simpa using hne) fun p hp => ?_
  obtain ⟨field, hfield, rfl⟩ := List.mem_map.1 hp
  exact not_mem_pieceOf (hnames field hfield) ⟨by decide, by decide⟩ (by decide)

/-! ## Fields behind a query -/

theorem query?_of_no_fragment (h : '#' ∉ url.toList) :
    query? url = (splitAtFirst? (· == '?') url.toList).map (·.2) := by
  have hnone : splitAtFirst? (· == '#') url.toList = none := by
    refine splitAtFirst?_eq_none_iff.2 fun c hc => ?_
    rw [beq_eq_false_iff_ne]
    rintro rfl
    exact h hc
  rw [query?, hnone]
  rfl

theorem queryPieces_of_no_query (hquery : '?' ∉ url.toList) (hfragment : '#' ∉ url.toList) :
    queryPieces url = [] := by
  have hnone : splitAtFirst? (· == '?') url.toList = none := by
    rw [← Option.isNone_iff_eq_none, ← Option.not_isSome, isSome_splitAtFirst?]
    simpa using hquery
  rw [queryPieces, query?_of_no_fragment hfragment, hnone]
  rfl

/-- A text with fields has no fragment, if the text had none. -/
theorem no_fragment_withFields (h : '#' ∉ url.toList)
    (hnames : ∀ field ∈ fields, IsUnreservedName field.1) :
    '#' ∉ (withFields url fields).toList := by
  rw [withFields, String.toList_ofList, List.mem_append, List.mem_cons, not_or, not_or]
  refine ⟨h, ?_, fun hc => ?_⟩
  · split <;> decide
  · have hquery := isQueryChar_write (fun field hf => (hnames field hf).isPlainName) _ hc
    exact absurd hquery (by decide)

/-- The query with fields: behind what was there, or from the beginning. -/
theorem query?_withFields (h : '#' ∉ url.toList)
    (hnames : ∀ field ∈ fields, IsUnreservedName field.1) :
    query? (withFields url fields)
      = some ((query? url).elim (Query.write fields) (· ++ '&' :: Query.write fields)) := by
  rw [query?_of_no_fragment (no_fragment_withFields h hnames), query?_of_no_fragment h, withFields,
    String.toList_ofList, ← isSome_splitAtFirst?]
  cases hsplit : splitAtFirst? (· == '?') url.toList with
  | none =>
    have hbegun := splitAtFirst?_append (p := (· == '?')) (c := '?') rfl
      (splitAtFirst?_eq_none_iff.1 hsplit) (Query.write fields)
    rw [Option.isSome_none, if_neg Bool.false_ne_true, hbegun]
    rfl
  | some found =>
    have hmore := splitAtFirst?_of_some hsplit ('&' :: Query.write fields)
    rw [Option.isSome_some, if_pos rfl, hmore]
    rfl

/-- A URL gives back the fields that were added to it. -/
theorem givesBack_withFields (h : '#' ∉ url.toList) (hne : fields ≠ [])
    (hnames : ∀ field ∈ fields, IsUnreservedName field.1) :
    GivesBack url (withFields url fields) fields := by
  have hpieces : queryPieces (withFields url fields)
      = queryPieces url ++ fields.map Query.pieceOf := by
    rw [queryPieces, query?_withFields h hnames, queryPieces, ← pieces_write hne hnames]
    cases query? url with
    | none => rfl
    | some query => exact pieces_append rfl _ _
  have hfields (plus : Char) : (fields.map Query.pieceOf).map (fieldAs plus) = fields := by
    rw [List.map_map]
    refine (List.map_congr_left fun field hf => ?_).trans (List.map_id fields)
    exact fieldAs_pieceOf (hnames field hf) plus
  refine ⟨hpieces, fun plus => by rw [hpieces, List.map_append, hfields], ?_,
    (Reference.parts_withFields url fun field hf => (hnames field hf).isPlainName).1,
    no_fragment_withFields h hnames⟩
  have hparse (url : String) : Query.parse ((query? url).getD [])
      = ((queryPieces url).filter (!·.isEmpty)).map (fieldAs ' ') := by
    rw [queryPieces, Query.parse, fieldAs_space]
    cases query? url <;> rfl
  have hfull : (fields.map Query.pieceOf).filter (!·.isEmpty) = fields.map Query.pieceOf := by
    refine List.filter_eq_self.2 fun piece hp => ?_
    obtain ⟨field, -, rfl⟩ := List.mem_map.1 hp
    simp [Query.pieceOf]
  rw [hparse, hparse, hpieces, List.filter_append, List.map_append, hfull, hfields]

/-! ## The two places -/

theorem authorizationUrl_eq {g : GoogleSettings} (h : '?' ∉ g.authUrl.toList) (state : String) :
    Google.authorizationUrl g state
      = withFields g.authUrl (Google.authorizationFields g state) := by
  rw [withFields, Google.authorizationUrl, if_neg (by simpa using h)]

/-- Where a browser goes with its tokens, the state and the token are found behind what the query
had to say before, and nothing else; and Google finds the five fields, in their order. -/
theorem query_exact :
    (∀ base state token : String, '#' ∉ base.toList →
      ('?' ∉ base.toList → queryPieces base = []) ∧
      GivesBack base (Call.callbackUrl base state token) [("state", state), ("token", token)]) ∧
    ∀ (g : GoogleSettings) (state : String), '?' ∉ g.authUrl.toList → '#' ∉ g.authUrl.toList →
      queryPieces g.authUrl = [] ∧
      GivesBack g.authUrl (Google.authorizationUrl g state) [("client_id", g.clientId),
        ("redirect_uri", g.serverCallbackUri), ("response_type", "code"),
        ("scope", " ".intercalate g.scopes), ("state", state)] := by
  have hunreserved : ∀ name ∈ ["state", "token", "client_id", "redirect_uri", "response_type",
      "scope"], IsUnreservedName name := by decide
  constructor
  · intro base state token hfragment
    refine ⟨fun hquery => queryPieces_of_no_query hquery hfragment, ?_⟩
    refine givesBack_withFields hfragment (List.cons_ne_nil _ _) fun field hf => hunreserved _ ?_
    simp only [List.mem_cons, List.not_mem_nil, or_false] at hf
    rcases hf with rfl | rfl <;> simp
  · intro g state hquery hfragment
    refine ⟨queryPieces_of_no_query hquery hfragment, ?_⟩
    rw [authorizationUrl_eq hquery]
    refine givesBack_withFields hfragment (List.cons_ne_nil _ _) fun field hf => hunreserved _ ?_
    simp only [Google.authorizationFields, List.mem_cons, List.not_mem_nil, or_false] at hf
    rcases hf with rfl | rfl | rfl | rfl | rfl <;> simp

/-- A state that looks like fields and a fragment is given back as a state. -/
theorem query_exact_hostile :
    '#' ∉ "http://app/cb?lang=en".toList ∧
    (queryPieces (Call.callbackUrl "http://app/cb?lang=en" "a&token=b#" "c+é")).map (fieldAs '+')
      = [("lang", "en"), ("state", "a&token=b#"), ("token", "c+é")] ∧
    '?' ∉ ({} : GoogleSettings).authUrl.toList ∧ '#' ∉ ({} : GoogleSettings).authUrl.toList ∧
    ((queryPieces (Google.authorizationUrl {} "a&scope=b")).map (fieldAs ' ')).getLast?
      = some ("state", "a&scope=b") := by
  have hbase : '#' ∉ "http://app/cb?lang=en".toList := by decide
  have hquery : '?' ∉ ({} : GoogleSettings).authUrl.toList := by decide
  have hfragment : '#' ∉ ({} : GoogleSettings).authUrl.toList := by decide
  have hlanguage : (queryPieces "http://app/cb?lang=en").map (fieldAs '+') = [("lang", "en")] := by
    decide +kernel
  have hclient := (query_exact.1 _ "a&token=b#" "c+é" hbase).2.read '+'
  have hgoogle := (query_exact.2 {} "a&scope=b" hquery hfragment).2.read ' '
  refine ⟨hbase, ?_, hquery, hfragment, ?_⟩
  · rw [hclient, hlanguage]
    rfl
  · rw [hgoogle, List.getLast?_append]
    rfl

end SignOn.Http
