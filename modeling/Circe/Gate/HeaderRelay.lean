import Circe.Gate.ClientHttpSession

/-!
# Gate/HeaderRelay — the headers of a request and of its response

On the way to the box the parameters and headers are appended, and every value arrives.  On the way
back the gate sets the headers of the response one by one: of several values of a key the last one
is left, so the headers survive exactly when no key has several (`headersSurvive_iff`).
-/

namespace Circe.Gate

open Protocol

variable {M : MultimapInterface Bytes Bytes}

/-! ## The two kinds of loops -/

theorem entries_keyValuesOf (m : M.Map) :
    (keyValuesOf m).map (fun o => (o.key, o.value)) = M.entries m :=
  (List.map_map ..).trans (List.map_id _)

/-- **A loop that appends loses nothing.** -/
theorem values_mapOfKeyValues (m : M.Map) (k : Bytes) :
    M.values (mapOfKeyValues (keyValuesOf m)) k = M.values m k := by
  rw [mapOfKeyValues, MultimapInterface.values_appendAll, MultimapInterface.values_empty,
    List.nil_append, entries_keyValuesOf]
  rfl

/-- **A loop that sets keeps the last value of a key.** -/
theorem values_setAll_keyValuesOf (m : M.Map) (k : Bytes) :
    M.values (M.setAll ((keyValuesOf m).map fun o => (o.key, o.value)) M.empty) k
      = (M.values m k).getLast?.toList := by
  rw [MultimapInterface.values_setAll_empty, entries_keyValuesOf]
  rfl

/-! ## One request -/

/-- A request of a client and what it meets, when it gets as far as the box. -/
structure Exchange (M : MultimapInterface Bytes Bytes) where
  library : HttpLibrary M
  handleHttpRequest : Box.HttpCall M → Box.HttpHandled M
  session : Authenticated
  connectionUuid : Uuid
  boxUuid : Uuid
  reqHeaders : RequestHeaders M
  reqEntity : Bytes

namespace Exchange

variable (x : Exchange M)

def foyerReq : HttpRequestToBox := httpRequestToBox x.session x.reqHeaders x.reqEntity

/-- What `handle_http_request` is called with. -/
def call : Box.HttpCall M := Box.httpCall (Foyer.httpRequest x.connectionUuid x.foyerReq)

/-- The headers `handle_http_request` builds. -/
def built : M.Map := (x.handleHttpRequest x.call).respHeaders

/-- What the gate gets from the foyer server. -/
def foyerResp : Except Common.Exception HttpResponseFromBox :=
  Foyer.httpRequestToBox (some x.boxUuid) (fun req => .ok (Box.httpRequest x.handleHttpRequest req))
    x.connectionUuid x.foyerReq

/-- What the gate passes to `send`. -/
def sent : Except (HttpException M) (ResponseHeaders M × Bytes) :=
  match x.foyerResp with
  | .error e => .error (.std e.what)
  | .ok foyerResp =>
    respond x.library (x.library.pickContentEncoding x.reqHeaders) x.reqHeaders foyerResp

/-- The response of the box as the gate gets it. -/
def boxResp : HttpResponseFromBox :=
  { Box.httpRequest x.handleHttpRequest (Foyer.httpRequest x.connectionUuid x.foyerReq) with
    boxUuid := x.boxUuid }

/-- The response before a default one is considered. -/
def prepared (statusCode : ℕ) : M.Map × Bytes :=
  prepare x.library (x.library.pickContentEncoding x.reqHeaders) x.reqHeaders x.boxResp statusCode

end Exchange

/-! ## The property and its condition -/

/-- The keys the gate sets itself. -/
def SetByGate (built : M.Map) (k : Bytes) : Prop :=
  M.same (asciiBytes "Connection") k = true ∨
    M.same (asciiBytes "Access-Control-Allow-Origin") k = true ∨
    M.same (asciiBytes "Access-Control-Allow-Headers") k = true ∨
    (M.same (asciiBytes "Content-Type") k = true ∧
      M.values built (asciiBytes "Content-Type") = []) ∨
    (M.same (asciiBytes "Content-Encoding") k = true ∧
      M.values built (asciiBytes "Content-Encoding") = [])

/-- **Headers survive the relay**: those of the request, its parameters, and those of the response
that the gate does not set itself keep all their values in order. -/
structure HeadersSurvive (x : Exchange M) (sent : M.Map) : Prop where
  params : ∀ k, M.values x.call.params k = M.values x.reqHeaders.getParams k
  headers : ∀ k, M.values x.call.headers k = M.values x.reqHeaders.headers k
  response : ∀ k, ¬ SetByGate x.built k → M.values sent k = M.values x.built k

/-- What `make_default_response` does with the headers it is given: it may set their type. -/
def KeepsHeaders (P : HttpLibrary M) : Prop :=
  ∀ statusCode headers,
    (∀ k, M.values (P.makeDefaultResponse statusCode headers).1.headers k = M.values headers k) ∨
    ∃ contentType, ∀ k, M.values (P.makeDefaultResponse statusCode headers).1.headers k
      = M.values (M.set headers (asciiBytes "Content-Type") contentType) k

/-- No key that the gate does not set itself has several values in the response of the box. -/
def Exchange.NoneRepeated (x : Exchange M) : Prop :=
  ∀ k, ¬ SetByGate x.built k → (M.values x.built k).length ≤ 1

/-- Where a default response is made, the type given by the box is left. -/
def Exchange.DefaultKeepsType (x : Exchange M) (statusCode : ℕ) : Prop :=
  4 ≤ statusCode / 100 → (x.prepared statusCode).2 = [] →
    ∀ k, ¬ SetByGate x.built k → M.same (asciiBytes "Content-Type") k = true →
      M.values (x.library.makeDefaultResponse statusCode (x.prepared statusCode).1).1.headers k
        = M.values (x.prepared statusCode).1 k

/-! ## What each step of the response does -/

section Steps

variable (P : HttpLibrary M) {headers : M.Map} {k l : Bytes}

theorem has_set (v : Bytes) (h : M.has headers k = true) : M.has (M.set headers l v) k = true := by
  cases hsame : M.same l k with
  | true =>
    have hvalues : M.values (M.set headers l v) k = [v] := (M.values_set ..).trans (if_pos hsame)
    simp [MultimapInterface.has, hvalues]
  | false => rwa [MultimapInterface.has, MultimapInterface.values_set_of_not hsame]

theorem has_setCommonHeaders (keepAlive : Bool) (h : M.has headers k = true) :
    M.has (setCommonHeaders keepAlive headers) k = true :=
  has_set _ (has_set _ (has_set _ h))

theorem values_setCommonHeaders (keepAlive : Bool)
    (hconnection : M.same (asciiBytes "Connection") k = false)
    (horigin : M.same (asciiBytes "Access-Control-Allow-Origin") k = false)
    (hheaders : M.same (asciiBytes "Access-Control-Allow-Headers") k = false) :
    M.values (setCommonHeaders keepAlive headers) k = M.values headers k := by
  rw [setCommonHeaders, MultimapInterface.values_set_of_not hheaders,
    MultimapInterface.values_set_of_not horigin, MultimapInterface.values_set_of_not hconnection]

theorem values_setContentType (entity : Bytes)
    (htype : M.same (asciiBytes "Content-Type") k = true →
      M.has headers (asciiBytes "Content-Type") = true) :
    M.values (setContentType P entity headers) k = M.values headers k := by
  rw [setContentType]
  split
  case isTrue h =>
    refine MultimapInterface.values_set_of_not (Bool.eq_false_iff.mpr fun hsame => ?_)
    exact absurd (htype hsame) (by simp [h.2])
  case isFalse => rfl

theorem has_setContentType (entity : Bytes) (h : M.has headers k = true) :
    M.has (setContentType P entity headers) k = true := by
  rw [setContentType]
  split
  · exact has_set _ h
  · exact h

theorem values_compress (encodingPreferred : ContentEncoding) (entity : Bytes)
    (hencoding : M.same (asciiBytes "Content-Encoding") k = true →
      M.has headers (asciiBytes "Content-Encoding") = true) :
    M.values (compress P encodingPreferred headers entity).1 k = M.values headers k := by
  simp only [compress]
  split
  case isTrue => rfl
  case isFalse h =>
    have hnone : M.same (asciiBytes "Content-Encoding") k = false :=
      Bool.eq_false_iff.mpr fun hsame => h (.inr (hencoding hsame))
    cases encodingPreferred with
    | gzip | deflate => exact MultimapInterface.values_set_of_not hnone
    | identity | notAcceptable => rfl

end Steps

/-! ## The relay -/

namespace Exchange

variable {x : Exchange M} {k : Bytes}

/-- The `catch` clauses of the box touch no key but one that the gate sets. -/
theorem values_headers (hconnection : M.same (asciiBytes "Connection") k = false) :
    M.values (x.handleHttpRequest x.call).headers k = M.values x.built k := by
  rw [Box.HttpHandled.headers]
  split
  · rfl
  · exact MultimapInterface.values_set_of_not hconnection

/-- What the gate's loop leaves of the headers of the response. -/
theorem values_boxResp (hconnection : M.same (asciiBytes "Connection") k = false) :
    M.values (M.setAll (x.boxResp.headers.map fun o => (o.key, o.value)) M.empty) k
      = (M.values x.built k).getLast?.toList := by
  rw [← values_headers hconnection]
  exact values_setAll_keyValuesOf (x.handleHttpRequest x.call).headers k

/-- A key that the box gave a value has one after the gate's loop. -/
theorem has_common (keepAlive : Bool) (h : M.values x.built k ≠ []) :
    M.has (setCommonHeaders keepAlive
      (M.setAll (x.boxResp.headers.map fun o => (o.key, o.value)) M.empty)) k = true := by
  cases hconnection : M.same (asciiBytes "Connection") k with
  | true =>
    have hset (m : M.Map) (v : Bytes) : M.has (M.set m (asciiBytes "Connection") v) k = true := by
      have hvalues : M.values (M.set m (asciiBytes "Connection") v) k = [v] :=
        (M.values_set ..).trans (if_pos hconnection)
      simp [MultimapInterface.has, hvalues]
    exact has_set _ (has_set _ (hset _ _))
  | false =>
    refine has_setCommonHeaders keepAlive (Bool.not_eq_false _ |>.mp fun hnone => h ?_)
    rw [MultimapInterface.has_eq_false_iff, values_boxResp hconnection] at hnone
    simpa using hnone

/-- **Of the values of a key the gate does not set, the last one is left.** -/
theorem values_prepared (statusCode : ℕ) (hk : ¬ SetByGate x.built k) :
    M.values (x.prepared statusCode).1 k = (M.values x.built k).getLast?.toList := by
  simp only [SetByGate, not_or, not_and, Bool.not_eq_true] at hk
  obtain ⟨hconnection, horigin, hheaders, htype, hencoding⟩ := hk
  rw [Exchange.prepared, prepare, fillIn, values_compress, values_setContentType,
    values_setCommonHeaders _ hconnection horigin hheaders, values_boxResp hconnection]
  · exact fun hsame => has_common _ (htype hsame)
  · exact fun hsame => has_setContentType _ _ (has_common _ (hencoding hsame))

/-- Every request header and parameter arrives. -/
theorem values_call (x : Exchange M) (k : Bytes) :
    M.values x.call.params k = M.values x.reqHeaders.getParams k ∧
      M.values x.call.headers k = M.values x.reqHeaders.headers k :=
  ⟨values_mapOfKeyValues _ k, values_mapOfKeyValues _ k⟩

theorem sent_eq (x : Exchange M) : x.sent
    = match x.library.statusCodeOf x.boxResp.statusCode with
      | .error what => .error (.std what)
      | .ok statusCode => .ok (orDefault x.library statusCode (x.prepared statusCode)) := rfl

/-- What is sent of a key is what is left of it, but for the type of a default response. -/
theorem values_sent (hkeeps : KeepsHeaders x.library) (statusCode : ℕ) (k : Bytes) :
    M.values (orDefault x.library statusCode (x.prepared statusCode)).1.headers k
        = M.values (x.prepared statusCode).1 k ∨
      4 ≤ statusCode / 100 ∧ (x.prepared statusCode).2 = [] ∧
        M.same (asciiBytes "Content-Type") k = true ∧
        (M.values (orDefault x.library statusCode (x.prepared statusCode)).1.headers k).length
          ≤ 1 := by
  rw [orDefault]
  split
  case isFalse => exact .inl rfl
  case isTrue hdefault =>
    rcases hkeeps statusCode (x.prepared statusCode).1 with hall | ⟨contentType, htype⟩
    · exact .inl (hall k)
    · rw [htype]
      cases hsame : M.same (asciiBytes "Content-Type") k with
      | false => exact .inl (MultimapInterface.values_set_of_not hsame)
      | true =>
        refine .inr ⟨hdefault.1, hdefault.2, rfl, ?_⟩
        rw [MultimapInterface.values, M.values_set, if_pos hsame]
        exact le_rfl

end Exchange

/-- **Headers survive the relay exactly when no key that the gate does not set itself is repeated**
in the response of the box, and a default response leaves the type the box gave. -/
theorem headersSurvive_iff (x : Exchange M) (hkeeps : KeepsHeaders x.library) {statusCode : ℕ}
    (hstatus : x.library.statusCodeOf x.boxResp.statusCode = .ok statusCode)
    {response : ResponseHeaders M × Bytes} (hsent : x.sent = .ok response) :
    HeadersSurvive x response.1.headers ↔ x.NoneRepeated ∧ x.DefaultKeepsType statusCode := by
  have hresponse : orDefault x.library statusCode (x.prepared statusCode) = response := by
    rw [Exchange.sent_eq, hstatus] at hsent
    exact Except.ok.inj hsent
  subst hresponse
  have hleft {k : Bytes} (hk : ¬ SetByGate x.built k) (hlength : (M.values x.built k).length ≤ 1) :
      M.values (x.prepared statusCode).1 k = M.values x.built k :=
    (Exchange.values_prepared statusCode hk).trans ((toList_getLast?_eq_iff _).mpr hlength)
  constructor
  · intro hsurvive
    have hnone : x.NoneRepeated := by
      intro k hk
      have hresponse := hsurvive.response k hk
      rcases Exchange.values_sent hkeeps statusCode k with hsame | ⟨-, -, -, hlength⟩
      · rw [hsame, Exchange.values_prepared statusCode hk] at hresponse
        exact (toList_getLast?_eq_iff _).mp hresponse
      · rwa [hresponse] at hlength
    refine ⟨hnone, fun hstatus hempty k hk _ => ?_⟩
    have hresponse := hsurvive.response k hk
    rw [orDefault, if_pos ⟨hstatus, hempty⟩] at hresponse
    exact hresponse.trans (hleft hk (hnone k hk)).symm
  · rintro ⟨hnone, htype⟩
    refine ⟨fun k => (Exchange.values_call x k).1, fun k => (Exchange.values_call x k).2,
      fun k hk => ?_⟩
    rw [← hleft hk (hnone k hk)]
    rcases Exchange.values_sent hkeeps statusCode k with hsame | ⟨hstatus, hempty, hsame, -⟩
    · exact hsame
    · rw [orDefault, if_pos ⟨hstatus, hempty⟩]
      exact htype hstatus hempty k hk hsame

/-! ## Two cookies -/

/-- Poseidon as far as the two runs below use it. -/
def relayLibrary : HttpLibrary (MultimapInterface.list Bytes Bytes) where
  urlDecode uri := some uri
  isKeepAliveEnabled _ := true
  pickContentEncoding _ := .identity
  statusCodeOf statusCode := .ok statusCode.toNatClampNeg
  statusCodeDesc _ := []
  guessMimeType _ := asciiBytes "text/plain"
  deflate _ entity := entity
  makeDefaultResponse statusCode headers := (⟨10001, statusCode, [], headers⟩, [])
  movedFrom headers := headers.map fun e => (e.1, [])

theorem keepsHeaders_relayLibrary : KeepsHeaders relayLibrary := fun _ _ => .inl fun _ => rfl

/-- A request to a box that sets the cookies. -/
def relayCookies (cookies : List Bytes) : Exchange (MultimapInterface.list Bytes Bytes) where
  library := relayLibrary
  handleHttpRequest _ :=
    ⟨cookies.map fun cookie => (asciiBytes "Set-Cookie", cookie), asciiBytes "hello", .ok 200⟩
  session := ⟨1, asciiBytes "192.0.2.1", asciiBytes "token", asciiBytes "/"⟩
  connectionUuid := 2
  boxUuid := 3
  reqHeaders := ⟨.get, asciiBytes "/", 10001, [], [(asciiBytes "Host", asciiBytes "localhost")]⟩
  reqEntity := []

/-- The client gets the second cookie only. -/
theorem not_headersSurvive :
    ∃ response, (relayCookies [asciiBytes "a=1", asciiBytes "b=2"]).sent = .ok response ∧
      ¬ HeadersSurvive (relayCookies [asciiBytes "a=1", asciiBytes "b=2"]) response.1.headers := by
  refine ⟨_, rfl, fun h => ?_⟩
  have hcookies := h.response (asciiBytes "Set-Cookie") (by unfold SetByGate; decide +kernel)
  exact absurd hcookies (by decide +kernel)

theorem headersSurvive_iff_trial :
    ∃ response, (relayCookies [asciiBytes "a=1"]).sent = .ok response ∧
      HeadersSurvive (relayCookies [asciiBytes "a=1"]) response.1.headers := by
  refine ⟨_, rfl, ?_⟩
  refine (headersSurvive_iff (relayCookies [asciiBytes "a=1"]) keepsHeaders_relayLibrary
    rfl rfl).mpr
    ⟨fun k _ => ?_, fun hstatus => absurd hstatus (by decide)⟩
  exact (List.length_map _).trans_le (List.length_filter_le _ _)

end Circe.Gate
