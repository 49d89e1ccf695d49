import RealmKeeper.Proofs.FormPairs
import RealmKeeper.Proofs.OperationErrors
import RealmKeeper.Proofs.RealmLookup
import RealmKeeper.Proofs.WrittenPaths

/-!
# The paths of the administrative client

The URLs that the administrative client builds over the URL of a provider.

* `Destination`: where it goes to, with the texts in it, and `Builds`: the URLs of its destinations;
* `LeadsTo`: a URL is made of the base URL and of the texts of a destination alone;
* `Builds.leadsTo`: the URLs that are built are made so, and `LeadsTo.destination_eq`: no two
  destinations have the same;
* `administrative_paths`: all of this over every base URL that is read, and that no operation fails
  for the base URL.
-/

namespace RealmKeeper.Admin

open RealmKeeper.Http RealmKeeper.Text

/-! ### Destinations -/

/-- **A text that is a segment as it stands**: it is none of the two that mean a place, and nothing
in it vanishes. -/
structure IsSegment (text : String) : Prop where
  not_dot : text ≠ "."
  not_dots : text ≠ ".."
  whole : ∀ ch ∈ text.toList, ch ≠ '\t' ∧ ch ≠ '\n' ∧ ch ≠ '\r'

instance (text : String) : Decidable (IsSegment text) :=
  decidable_of_iff
    (text ≠ "." ∧ text ≠ ".." ∧
      (text.toList.all fun ch => decide (ch ≠ '\t' ∧ ch ≠ '\n' ∧ ch ≠ '\r')) = true)
    ⟨fun ⟨dot, dots, whole⟩ => ⟨dot, dots, by simpa using whole⟩,
      fun h => ⟨h.not_dot, h.not_dots, by simpa using h.whole⟩⟩

/-- **Where the client goes to**, with the texts in it. -/
inductive Destination where
  /-- Where admin tokens are issued. -/
  | token (adminRealm : String)
  | lookup (realm : String)
  /-- Where initial access tokens are issued. -/
  | initialToken (realm : String)
  /-- Where the clients with an identifier are listed. -/
  | listing (realm clientId : String)
  /-- Where the registration token of a client is renewed. -/
  | renewal (realm id : String)
  | registration (realm : String)
deriving DecidableEq

namespace Destination

/-- The texts that go into the path. -/
def arguments : Destination → List String
  | .renewal realm id => [realm, id]
  | .token realm | .lookup realm | .initialToken realm | .listing realm _ | .registration realm =>
    [realm]

/-- All texts that are added to the path of the base URL. -/
def texts : Destination → List String
  | .token adminRealm => ["realms", adminRealm, "protocol", "openid-connect", "token"]
  | .lookup realm => ["admin", "realms", realm]
  | .initialToken realm => ["admin", "realms", realm, "clients-initial-access"]
  | .listing realm _ => ["admin", "realms", realm, "clients"]
  | .renewal realm id => ["admin", "realms", realm, "clients", id, "registration-access-token"]
  | .registration realm => ["realms", realm, "clients-registrations", "openid-connect"]

/-- The pair that is added to the query of the base URL. -/
def pair? : Destination → Option (List Char × List Char)
  | .listing _ clientId => some ("clientId".toList, clientId.toList)
  | _ => none

/-- The texts that go into the path are segments as they stand. -/
def IsPlain (d : Destination) : Prop :=
  ∀ text ∈ d.arguments, IsSegment text

theorem eq_of_texts {d d' : Destination} (texts : d.texts = d'.texts)
    (pair : d.pair? = d'.pair?) : d = d' := by
  cases d <;> cases d' <;> simp_all [Destination.texts, pair?, String.toList_inj]

/-- The texts in the path that are the same for all clients. -/
def fixedTexts : List String :=
  ["realms", "admin", "clients", "protocol", "openid-connect", "token", "clients-initial-access",
    "registration-access-token", "clients-registrations"]

theorem mem_texts {d : Destination} {text : String} (h : text ∈ d.texts) :
    text ∈ d.arguments ∨ text ∈ fixedTexts := by
  cases d <;> simp only [texts, arguments, fixedTexts, List.mem_cons] at h ⊢ <;> tauto

theorem IsPlain.texts {d : Destination} (h : d.IsPlain) : ∀ text ∈ d.texts, IsSegment text := by
  have fixed : ∀ text ∈ fixedTexts, IsSegment text := by decide
  exact fun text mem => (mem_texts mem).elim (h text) (fixed text)

theorem exists_texts (d : Destination) :
    ∃ first rest, d.texts = first :: rest ∧ (first = "realms" ∨ first = "admin") := by
  cases d <;> exact ⟨_, _, rfl, by decide⟩

end Destination

/-- **The URLs that a client builds.** -/
inductive Builds (c : AdminClient) : Destination → Url → Prop
  | token : Builds c (.token c.credentials.realm) c.tokenEndpoint
  | lookup (realm : String) : Builds c (.lookup realm) (c.realmEndpoint realm)
  | initialToken : Builds c (.initialToken c.realm) c.initialTokenEndpoint
  | listing (clientId : String) : Builds c (.listing c.realm clientId) (c.clientsEndpoint clientId)
  | renewal (id : String) : Builds c (.renewal c.realm id) (c.renewalEndpoint id)
  | registration : Builds c (.registration c.realm) c.registrationEndpoint

/-! ### What a URL is made of -/

/-- **The URL of a destination**: all but path and query are those of the base URL. The query has
the pair behind what it had, and the path has the texts behind its trunk, each as one segment. -/
structure LeadsTo (base : Url) (d : Destination) (u : Url) : Prop where
  scheme : u.scheme = base.scheme
  user : u.username = base.username ∧ u.password = base.password
  host : u.host = base.host
  port : u.port = base.port
  fragment : u.fragment = base.fragment
  query : d.pair? = none → u.query = base.query
  /-- The query of the base URL, if it has one, stands unchanged before the pair. -/
  stands : ∀ pair ∈ d.pair?, ∃ written, '&' ∉ written ∧ Url.formPairs written = [pair] ∧
    (base.query.getD [] = [] ∧ u.query = some written ∨
      base.query.getD [] ≠ [] ∧ u.query = some (base.query.getD [] ++ '&' :: written))
  pairs : Url.formPairs (u.query.getD []) =
    Url.formPairs (base.query.getD []) ++ d.pair?.toList
  path : ∃ before added, base.path = .segments before ∧
    u.HasSegments (Url.trunk before ++ added) ∧
    added.map Url.unescape = d.texts.map fun text => Utf8.encode text.toList

variable {c : AdminClient} {base u v : Url} {d d' : Destination}

theorem IsSegment.visible {text : String} (h : IsSegment text) :
    Url.visible text.toList = text.toList := by
  refine List.filter_eq_self.mpr fun ch hc => ?_
  obtain ⟨tab, line, back⟩ := h.whole ch hc
  simp [Url.isVanishing, tab, line, back]

theorem IsSegment.isProper {text : String} (h : IsSegment text) : Url.IsProper text.toList := by
  constructor
  · rw [h.visible]
    exact fun he => h.not_dot (String.toList_inj.mp he)
  · rw [h.visible]
    exact fun he => h.not_dots (String.toList_inj.mp he)

theorem Builds.eq_endpoint (h : Builds c d u) :
    u = d.pair?.elim (c.endpoint d.texts) (c.endpoint d.texts).addQueryPair := by
  cases h <;> rfl

/-- **The segments of what is built**: those of the texts behind the trunk. -/
theorem Destination.IsPlain.pushSegments_eq (h : d.IsPlain) (before : List (List Char)) :
    Url.pushSegments true before (d.texts.map String.toList) =
      Url.trunk before ++ d.texts.map fun text => Url.segmentText true text.toList := by
  have proper : ∀ text ∈ d.texts.map String.toList, Url.IsProper text :=
    List.forall_mem_map.mpr fun text mem => (h.texts text mem).isProper
  obtain ⟨first, rest, hd, known⟩ := d.exists_texts
  have written : Url.visible first.toList ≠ [] := by
    rcases known with rfl | rfl <;> decide
  rw [hd, List.map_cons] at proper
  rw [hd, List.map_cons, Url.pushSegments_of_proper true before written proper, ← List.map_cons,
    List.map_map]
  rfl

/-- **The URLs that are built** are made of the base URL and of the texts alone. -/
theorem Builds.leadsTo (h : Builds c d u) {text : String}
    (parsed : Url.ofString text = .ok c.baseUrl) (http : c.baseUrl.isHttp = true)
    (plain : d.IsPlain) : LeadsTo c.baseUrl d u := by
  obtain ⟨special, host, before, hp, written⟩ := Url.exists_segments_of_parsed parsed http
  let added := d.texts.map fun text => Url.segmentText true text.toList
  have endpoint : c.endpoint d.texts =
      { c.baseUrl with path := .segments (Url.trunk before ++ added) } := by
    rw [endpoint_eq hp, special, plain.pushSegments_eq]
  have decoded : added.map Url.unescape = d.texts.map fun text => Utf8.encode text.toList := by
    rw [List.map_map]
    refine List.map_congr_left fun text mem => ?_
    rw [Function.comp, Url.unescape_segmentText, (plain.texts text mem).visible]
  have standing : ∀ segment ∈ Url.trunk before ++ added, Url.IsWritten segment := by
    refine List.forall_mem_append.mpr ⟨fun segment mem => written _ (Url.mem_of_mem_trunk mem), ?_⟩
    exact List.forall_mem_map.mpr fun text mem =>
      Url.isWritten_segmentText (plain.texts text mem).isProper
  have filled : Url.trunk before ++ added ≠ [] := by
    obtain ⟨first, rest, hd, -⟩ := d.exists_texts
    simp [added, hd]
  obtain rfl : u = { c.baseUrl with
      path := .segments (Url.trunk before ++ added)
      query := d.pair?.elim c.baseUrl.query fun pair =>
        some (Url.appendPair (c.baseUrl.query.getD []) pair) } := by
    rw [h.eq_endpoint, endpoint]
    cases d.pair? <;> rfl
  refine ⟨rfl, ⟨rfl, rfl⟩, rfl, rfl, rfl, fun none => ?_, fun pair own => ?_, ?_, before, added,
    hp, Url.hasSegments_of_written host rfl filled standing, decoded⟩
  · rw [none]
    rfl
  · rw [Option.mem_def.mp own]
    simpa using Url.exists_appendPair (c.baseUrl.query.getD []) pair
  · cases d.pair? with
    | none => exact (List.append_nil _).symm
    | some pair => exact Url.formPairs_appendPair _ _

/-- **No two destinations have the same URL.** -/
theorem LeadsTo.destination_eq (h : LeadsTo base d u) (h' : LeadsTo base d' v)
    (same : u.text = v.text) : d = d' := by
  have authority : u.authorityChars = v.authorityChars := by
    unfold Url.authorityChars Url.userInfoChars
    rw [h.host, h'.host, h.port, h'.port, h.user.1, h'.user.1, h.user.2, h'.user.2]
  obtain ⟨before, added, hp, has, decoded⟩ := h.path
  obtain ⟨before', added', hp', has', decoded'⟩ := h'.path
  obtain ⟨segments, suffixes⟩ :=
    has.eq_of_text_eq has' (h.scheme.trans h'.scheme.symm) authority same
  refine Destination.eq_of_texts ?_ ?_
  · obtain rfl : before = before' := Url.Path.segments.inj (hp.symm.trans hp')
    rw [List.append_cancel_left segments, decoded'] at decoded
    refine List.map_injective_iff.mpr (fun text text' he => ?_) decoded.symm
    exact String.toList_inj.mp (Utf8.encode_injective he)
  · have query := Url.query_eq_of_suffixChars_eq suffixes (h.fragment.trans h'.fragment.symm)
    have pairs := h.pairs
    rw [query, h'.pairs] at pairs
    have lists := List.append_cancel_left pairs
    cases hd : d.pair? <;> cases hd' : d'.pair? <;> simp_all

/-! ### Over every base URL -/

/-- The error is not that of a base URL. -/
def AdminError.SparesBaseUrl (e : AdminError) : Prop :=
  ∀ url, e ≠ .invalidBaseUrl url

theorem sparesBaseUrl_of_isOfExchange {e : AdminError} (h : e.IsOfExchange) : e.SparesBaseUrl := by
  rintro url rfl
  exact h

theorem sparesBaseUrl_of_search {e : AdminError} {clientId : String}
    (h : e.IsOfExchange ∨ e = .clientNotFound clientId) : e.SparesBaseUrl := by
  rcases h with h | rfl
  · exact sparesBaseUrl_of_isOfExchange h
  · exact nofun

/-- **The paths of the administrative client are exact.** Over a URL of HTTP that is read there is a
client; the URLs of its destinations are made of this URL and of the texts of the destination alone,
if these are segments as they stand; no two destinations have the same URL; and no operation of any
client fails for its base URL. -/
theorem administrative_paths {text : String} {base : Url} (parsed : Url.ofString text = .ok base)
    (http : base.isHttp = true) :
    (∀ realm credentials lifetime, ∃ c : AdminClient,
      AdminClient.ofUrl base realm credentials lifetime = .ok c ∧ c.baseUrl = base ∧
        c.realm = realm ∧ c.credentials = credentials) ∧
    (∀ (c : AdminClient) d u, c.baseUrl = base → Builds c d u → d.IsPlain → LeadsTo base d u) ∧
    (∀ (c c' : AdminClient) d d' u u', c.baseUrl = base → c'.baseUrl = base → Builds c d u →
      Builds c' d' u' → d.IsPlain → d'.IsPlain → u.text = u'.text → d = d') ∧
    ∀ (c : AdminClient) watch realm clientId,
      (c.realmExists watch realm).FailsWith AdminError.SparesBaseUrl ∧
      (c.tokenForRegistration watch).FailsWith AdminError.SparesBaseUrl ∧
      (c.findClient watch clientId).FailsWith AdminError.SparesBaseUrl ∧
      (c.refreshToken watch clientId).FailsWith AdminError.SparesBaseUrl := by
  have leads : ∀ (c : AdminClient) d u, c.baseUrl = base → Builds c d u → d.IsPlain →
      LeadsTo base d u := by
    rintro c d u rfl builds plain
    exact builds.leadsTo parsed http plain
  refine ⟨fun realm credentials lifetime => ?_, leads, ?_, ?_⟩
  · obtain ⟨-, -, segments, hp, -⟩ := Url.exists_segments_of_parsed parsed http
    have hierarchical : base.isHierarchical = true := by
      unfold Url.isHierarchical
      rw [hp]
    exact ⟨⟨base, hierarchical, realm, credentials, lifetime⟩, dif_pos hierarchical, rfl, rfl, rfl⟩
  · intro c c' d d' u u' own own' builds builds' plain plain' same
    exact (leads c d u own builds plain).destination_eq (leads c' d' u' own' builds' plain') same
  · intro c watch realm clientId
    have exchanged (e : AdminError) (h : e.IsOfExchange) := sparesBaseUrl_of_isOfExchange h
    exact ⟨(c.failsWith_realmExists watch realm).imp exchanged,
      (c.failsWith_tokenForRegistration watch).imp exchanged,
      (c.failsWith_findClient watch clientId).imp fun _ => sparesBaseUrl_of_search,
      (c.failsWith_refreshToken watch clientId).imp fun _ => sparesBaseUrl_of_search⟩

/-- A base URL with all its parts. -/
def adornedUrl : Url where
  scheme := "https".toList
  username := "user".toList
  password := some "pw".toList
  host := some (.domain "idp.test".toList)
  port := some 8443
  path := .segments ["auth".toList, []]
  query := some "a=1".toList
  fragment := some "f".toList

/-- The lookup of a realm whose name has a slash and the sign of a query. -/
theorem administrative_paths_adorned :
    Url.ofString "https://user:pw@idp.test:8443/auth/?a=1#f" = .ok adornedUrl ∧
      adornedUrl.isHttp = true ∧
      ∃ c : AdminClient, c.baseUrl = adornedUrl ∧ (Destination.lookup "a/b?c").IsPlain ∧
        LeadsTo adornedUrl (.lookup "a/b?c") (c.realmEndpoint "a/b?c") ∧
        (c.realmEndpoint "a/b?c").text =
          "https://user:pw@idp.test:8443/auth/admin/realms/a%2Fb%3Fc?a=1#f" := by
  have parsed : Url.ofString "https://user:pw@idp.test:8443/auth/?a=1#f" = .ok adornedUrl := by
    decide
  have http : adornedUrl.isHttp = true := by decide
  have plain : (Destination.lookup "a/b?c").IsPlain :=
    List.forall_mem_singleton.mpr (by decide)
  obtain ⟨-, leads, -⟩ := administrative_paths parsed http
  exact ⟨parsed, http, { localClient with baseUrl := adornedUrl, hierarchical := rfl }, rfl, plain,
    leads _ _ _ rfl (.lookup _) plain, by decide⟩

end RealmKeeper.Admin
