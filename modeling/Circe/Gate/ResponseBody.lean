import Circe.Gate.BannedClients

/-!
# Gate/ResponseBody — the body of a response and what its headers say of it

The gate guesses a type, compresses, and makes a default body, one after the other on the same
headers and body.  Undoing the encoding it added gives the body of the box, and it adds none where
the box gave one.  A response to `HEAD` has no body, unless it is an error: the default body is made
after that of the box was dropped (`bodyMatches_iff`).
-/

namespace Circe.Gate

open Protocol

variable {M : MultimapInterface Bytes Bytes}

/-! ## The property -/

/-- The response of the box, where the job got that far. -/
def JobInput.boxResp : JobInput → Option HttpResponseFromBox
  | .foyerResponse (.ok boxResp) => some boxResp
  | _ => none

/-- The encodings that the box gave. -/
def givenEncodings (M : MultimapInterface Bytes Bytes) (boxResp : HttpResponseFromBox) :
    List Bytes :=
  valuesAt M.same (boxResp.headers.map fun o => (o.key, o.value)) (asciiBytes "Content-Encoding")

/-- The encodings that the gate added. -/
def addedEncodings (boxResp : HttpResponseFromBox) (headers : M.Map) : List Bytes :=
  (M.values headers (asciiBytes "Content-Encoding")).diff (givenEncodings M boxResp)

/-- An encoding of the gate is undone. -/
def undoEncoding (inflate : Bool → Bytes → Option Bytes) (encoding entity : Bytes) :
    Option Bytes :=
  if encoding = asciiBytes "gzip" then inflate true entity
  else if encoding = asciiBytes "deflate" then inflate false entity
  else none

/-- **The body matches the headers.** -/
structure BodyMatches (inflate : Bool → Bytes → Option Bytes) (verb : Verb)
    (boxResp? : Option HttpResponseFromBox) (sent : ResponseHeaders M × Bytes) : Prop where
  undone : ∀ boxResp ∈ boxResp?, verb ≠ .head → boxResp.entity ≠ [] →
    (addedEncodings boxResp sent.1.headers).foldrM (undoEncoding inflate) sent.2
      = some boxResp.entity
  given : ∀ boxResp ∈ boxResp?, givenEncodings M boxResp ≠ [] →
    addedEncodings boxResp sent.1.headers = []
  head : verb = .head → sent.2 = []

/-- **What the gate relies on**: keys that are the same differ in case at most; `numeric_cast` keeps
the number; `Deflator` round-trips, and gives something; a default response for an error has a body,
and the headers it was given. -/
structure Reliable (P : HttpLibrary M) (inflate : Bool → Bytes → Option Bytes) : Prop where
  same_self : ∀ key, M.same key key = true
  sameText_of_same : ∀ key key', M.same key key' = true → sameText key key' = true
  toInt_statusCodeOf : ∀ statusCode n, P.statusCodeOf statusCode = .ok n → n = statusCode.toInt
  inflate_deflate : ∀ gzip entity, inflate gzip (P.deflate gzip entity) = some entity
  deflate_ne_nil : ∀ gzip entity, P.deflate gzip entity ≠ []
  makeDefaultResponse_ne_nil : ∀ statusCode headers, 4 ≤ statusCode / 100 →
    (P.makeDefaultResponse statusCode headers).2 ≠ []
  keepsHeaders : KeepsHeaders P

/-! ## What each step does -/

/-- The name of an encoding of the gate. -/
def encodingName (gzip : Bool) : Bytes := if gzip then asciiBytes "gzip" else asciiBytes "deflate"

theorem undoEncoding_encodingName (inflate : Bool → Bytes → Option Bytes) (gzip : Bool)
    (entity : Bytes) : undoEncoding inflate (encodingName gzip) entity = inflate gzip entity := by
  cases gzip with
  | true => exact if_pos rfl
  | false => exact (if_neg (by decide +kernel)).trans (if_pos rfl)

/-- Either nothing is compressed, or there is something to compress, and no encoding was given. -/
theorem compress_cases (P : HttpLibrary M) (encodingPreferred : ContentEncoding) (headers : M.Map)
    (entity : Bytes) :
    compress P encodingPreferred headers entity = (headers, entity) ∨
      (entity ≠ [] ∧ M.has headers (asciiBytes "Content-Encoding") = false ∧
        ∃ gzip, compress P encodingPreferred headers entity
          = (M.set headers (asciiBytes "Content-Encoding") (encodingName gzip),
              P.deflate gzip entity)) := by
  simp only [compress]
  split
  case isTrue => exact .inl rfl
  case isFalse h =>
    obtain ⟨hentity, hhas⟩ := not_or.mp h
    rw [Bool.not_eq_true] at hhas
    cases encodingPreferred with
    | gzip => exact .inr ⟨hentity, hhas, true, rfl⟩
    | deflate => exact .inr ⟨hentity, hhas, false, rfl⟩
    | identity | notAcceptable => exact .inl rfl

/-- What the gate makes the body from. -/
def bodyOf (reqHeaders : RequestHeaders M) (boxResp : HttpResponseFromBox) : Bytes :=
  if reqHeaders.verb = .head then [] else boxResp.entity

namespace Reliable

variable {P : HttpLibrary M} {inflate : Bool → Bytes → Option Bytes}
  {encodingPreferred : ContentEncoding} {reqHeaders : RequestHeaders M}
  {boxResp : HttpResponseFromBox} {statusCode : ℕ}

theorem not_same (h : Reliable P inflate) {key : Bytes}
    (hkey : sameText key (asciiBytes "Content-Encoding") = false) :
    M.same key (asciiBytes "Content-Encoding") = false :=
  Bool.eq_false_iff.mpr fun hsame =>
    Bool.false_ne_true (hkey.symm.trans (h.sameText_of_same _ _ hsame))

/-- Before the body is compressed, the encoding is the last one that the box gave. -/
theorem values_setContentType (h : Reliable P inflate) (keepAlive : Bool) (entity : Bytes)
    (boxResp : HttpResponseFromBox) :
    M.values (setContentType P entity (setCommonHeaders keepAlive
        (M.setAll (boxResp.headers.map fun o => (o.key, o.value)) M.empty)))
      (asciiBytes "Content-Encoding") = (givenEncodings M boxResp).getLast?.toList := by
  have htype : M.same (asciiBytes "Content-Type") (asciiBytes "Content-Encoding") = false :=
    h.not_same (by decide +kernel)
  rw [Gate.values_setContentType P entity fun hsame =>
      absurd (htype.symm.trans hsame) Bool.false_ne_true,
    values_setCommonHeaders keepAlive (h.not_same (by decide +kernel))
      (h.not_same (by decide +kernel)) (h.not_same (by decide +kernel)),
    MultimapInterface.values_setAll_empty, givenEncodings]

/-- The body is that of the box, under the encodings it gave; or it gave none, and the body is
compressed. -/
theorem prepare_cases (h : Reliable P inflate) (encodingPreferred : ContentEncoding)
    (reqHeaders : RequestHeaders M) (boxResp : HttpResponseFromBox) (statusCode : ℕ) :
    (M.values (prepare P encodingPreferred reqHeaders boxResp statusCode).1
          (asciiBytes "Content-Encoding") = (givenEncodings M boxResp).getLast?.toList ∧
        (prepare P encodingPreferred reqHeaders boxResp statusCode).2
          = bodyOf reqHeaders boxResp) ∨
      (givenEncodings M boxResp = [] ∧ bodyOf reqHeaders boxResp ≠ [] ∧
        ∃ gzip, M.values (prepare P encodingPreferred reqHeaders boxResp statusCode).1
            (asciiBytes "Content-Encoding") = [encodingName gzip] ∧
          (prepare P encodingPreferred reqHeaders boxResp statusCode).2
            = P.deflate gzip (bodyOf reqHeaders boxResp)) := by
  simp only [prepare, fillIn]
  rw [← bodyOf]
  generalize (P.isKeepAliveEnabled (RequestHeaders.moved P reqHeaders) && _) = keepAlive
  have hvalues := h.values_setContentType keepAlive (bodyOf reqHeaders boxResp) boxResp
  generalize setContentType P (bodyOf reqHeaders boxResp) _ = headers at *
  rcases compress_cases P encodingPreferred headers (bodyOf reqHeaders boxResp) with
    heq | ⟨hbody, hhas, gzip, heq⟩
  · rw [heq]
    exact .inl ⟨hvalues, rfl⟩
  · rw [heq]
    refine .inr ⟨?_, hbody, gzip, ?_, rfl⟩
    · rw [MultimapInterface.has_eq_false_iff, hvalues] at hhas
      simpa using hhas
    · exact (M.values_set ..).trans (if_pos (h.same_self _))

/-- **Undoing what the gate added gives what it made the body from**, and it adds nothing where the
box gave an encoding. -/
theorem undone_prepare (h : Reliable P inflate) (encodingPreferred : ContentEncoding)
    (reqHeaders : RequestHeaders M) (boxResp : HttpResponseFromBox) (statusCode : ℕ) :
    (addedEncodings boxResp (prepare P encodingPreferred reqHeaders boxResp statusCode).1).foldrM
        (undoEncoding inflate) (prepare P encodingPreferred reqHeaders boxResp statusCode).2
      = some (bodyOf reqHeaders boxResp) ∧
    (givenEncodings M boxResp ≠ [] →
      addedEncodings boxResp (prepare P encodingPreferred reqHeaders boxResp statusCode).1
        = []) := by
  rcases h.prepare_cases encodingPreferred reqHeaders boxResp statusCode with
    ⟨hvalues, hbody⟩ | ⟨hnone, -, gzip, hvalues, hbody⟩
  · rw [addedEncodings, hvalues, toList_getLast?_diff, hbody]
    exact ⟨rfl, fun _ => rfl⟩
  · rw [addedEncodings, hvalues, hnone, hbody]
    refine ⟨?_, fun hgiven => absurd rfl hgiven⟩
    calc [encodingName gzip].foldrM (undoEncoding inflate) (P.deflate gzip _)
        = undoEncoding inflate (encodingName gzip) (P.deflate gzip _) := by
          rw [List.foldrM_cons, List.foldrM_nil, pure_bind]
      _ = inflate gzip (P.deflate gzip _) := undoEncoding_encodingName inflate gzip _
      _ = some (bodyOf reqHeaders boxResp) := h.inflate_deflate gzip _

theorem prepare_eq_nil_iff (h : Reliable P inflate) :
    (prepare P encodingPreferred reqHeaders boxResp statusCode).2 = [] ↔
      bodyOf reqHeaders boxResp = [] := by
  rcases h.prepare_cases encodingPreferred reqHeaders boxResp statusCode with
    ⟨-, hbody⟩ | ⟨-, hne, gzip, -, hbody⟩
  · rw [hbody]
  · rw [hbody]
    exact iff_of_false (h.deflate_ne_nil gzip _) hne

/-- A default response has the encoding it is given. -/
theorem addedEncodings_orDefault (h : Reliable P inflate) (boxResp : HttpResponseFromBox)
    (statusCode : ℕ) (filled : M.Map × Bytes) :
    addedEncodings boxResp (orDefault P statusCode filled).1.headers
      = addedEncodings boxResp filled.1 := by
  have htype : M.same (asciiBytes "Content-Type") (asciiBytes "Content-Encoding") = false :=
    h.not_same (by decide +kernel)
  rw [orDefault]
  split
  case isFalse => rfl
  case isTrue =>
    rw [addedEncodings, addedEncodings]
    rcases h.keepsHeaders statusCode filled.1 with hall | ⟨contentType, hset⟩
    · rw [hall]
    · rw [hset, MultimapInterface.values_set_of_not htype]

/-- A body is sent as it is; an error without one gets a default one. -/
theorem orDefault_snd (P : HttpLibrary M) (statusCode : ℕ) (filled : M.Map × Bytes) :
    (4 ≤ statusCode / 100 ∧ filled.2 = [] ∧ (orDefault P statusCode filled).2
        = (P.makeDefaultResponse statusCode filled.1).2) ∨
      (¬ (4 ≤ statusCode / 100 ∧ filled.2 = []) ∧ (orDefault P statusCode filled).2
        = filled.2) := by
  rw [orDefault]
  split
  case isTrue h => exact .inl ⟨h.1, h.2, rfl⟩
  case isFalse h => exact .inr ⟨h, rfl⟩

/-- **A response made from that of a box matches its headers, unless it is an error that answers
`HEAD`.** -/
theorem bodyMatches_orDefault_iff (h : Reliable P inflate) :
    BodyMatches inflate reqHeaders.verb (some boxResp) (orDefault P statusCode
        (prepare P encodingPreferred reqHeaders boxResp statusCode)) ↔
      (reqHeaders.verb = .head → statusCode / 100 < 4) := by
  have hadded := h.addedEncodings_orDefault boxResp statusCode
    (prepare P encodingPreferred reqHeaders boxResp statusCode)
  obtain ⟨hundone, hgiven⟩ := h.undone_prepare encodingPreferred reqHeaders boxResp statusCode
  have hnil : (prepare P encodingPreferred reqHeaders boxResp statusCode).2 = [] ↔
      bodyOf reqHeaders boxResp = [] := h.prepare_eq_nil_iff
  have hsnd := orDefault_snd P statusCode
    (prepare P encodingPreferred reqHeaders boxResp statusCode)
  constructor
  · intro hmatches hhead
    rcases hsnd with ⟨herror, -, hdefault⟩ | ⟨hnot, -⟩
    · exact absurd (hdefault.symm.trans (hmatches.head hhead))
        (h.makeDefaultResponse_ne_nil statusCode _ herror)
    · exact not_le.mp fun herror => hnot ⟨herror, hnil.mpr (if_pos hhead)⟩
  · intro hhead
    refine ⟨fun resp hresp hverb hentity => ?_, fun resp hresp hne => ?_, fun hverb => ?_⟩
    · cases hresp
      have hbody : bodyOf reqHeaders boxResp = boxResp.entity := if_neg hverb
      have hsent := (hsnd.resolve_left fun hdefault => hentity
        (hbody ▸ hnil.mp hdefault.2.1)).2
      rw [hadded, hsent, hundone, hbody]
    · cases hresp
      rw [hadded, hgiven hne]
    · have hsent := (hsnd.resolve_left fun hdefault =>
        not_le.mpr (hhead hverb) hdefault.1).2
      rw [hsent, hnil]
      exact if_pos hverb

end Reliable

/-! ## What is sent -/

section Sent

variable {config : Config} {P : SessionLibrary M} {c : Context} {reqHeaders : RequestHeaders M}
  {sent : ResponseHeaders M × Bytes}

theorem not_sent_relay (reqEntity : Bytes) (sending : Sending) :
    .sent sent ∉ (c.relay reqHeaders reqEntity sending).effects := by
  cases sending <;> simp [Context.relay, Context.throw]

theorem not_sent_failAuthentication (e : HttpException M) :
    .sent sent ∉ (c.failAuthentication config e).effects := by
  simp [Context.failAuthentication, Context.throw]

theorem not_sent_syncAuthenticate (sending : Sending) (waiting : Stage) :
    .sent sent ∉ (c.syncAuthenticate config reqHeaders sending waiting).effects := by
  simp only [Context.syncAuthenticate]
  split
  · exact not_sent_failAuthentication _
  · cases sending with
    | noServer | threw => exact not_sent_failAuthentication _
    | sent => simp

/-- Before it waits, `on_sync_request` answers `OPTIONS` only. -/
theorem verb_of_onSyncRequest {reqEntity : Bytes} {sending : Sending}
    (h : .sent sent ∈ (c.onSyncRequest config P reqHeaders reqEntity sending).effects) :
    reqHeaders.verb = .options := by
  rcases Context.onSyncRequest_cases config P c reqHeaders reqEntity sending with
    ⟨e, heq⟩ | ⟨hverb, -⟩ | ⟨c', -, -, heq⟩
  · simp [heq, Context.throw] at h
  · exact hverb
  · rw [heq] at h
    split_ifs at h
    · exact absurd h (not_sent_relay _ _)
    · exact absurd h (not_sent_syncAuthenticate _ _)

theorem not_sent_onRequestAuthenticated (reqEntity : Bytes)
    (resp : Except String HttpAuthenticationResponse) (sending : Sending) :
    .sent sent ∉ (c.onRequestAuthenticated config P reqHeaders reqEntity resp sending).effects := by
  rw [Context.onRequestAuthenticated]
  split
  · exact not_sent_failAuthentication _
  · exact not_sent_relay _ _

theorem sent_onRelayed {resp : Except String HttpResponseFromBox}
    (h : .sent sent ∈ (c.onRelayed P reqHeaders resp).effects) :
    ∃ boxResp statusCode, JobInput.boxResp (.foyerResponse resp) = some boxResp ∧
      P.statusCodeOf boxResp.statusCode = .ok statusCode ∧
      sent = orDefault P.toHttpLibrary statusCode (prepare P.toHttpLibrary
        (P.pickContentEncoding reqHeaders) reqHeaders boxResp statusCode) := by
  cases resp with
  | error what => simp [Context.onRelayed, Context.throw] at h
  | ok boxResp =>
    rw [Context.onRelayed, respond] at h
    cases hstatus : P.statusCodeOf boxResp.statusCode with
    | error what => simp [hstatus, Context.throw] at h
    | ok statusCode => exact ⟨boxResp, statusCode, rfl, hstatus, by simpa [hstatus] using h⟩

/-- What a job of `on_sync_request` sends is the answer to `OPTIONS`, or made from the response of
the box. -/
theorem sent_cases {job : ClientJob M} {input : JobInput} (hstage : job.stage.isRequest = true)
    (hsent : .sent sent ∈ (job.step config P c input).effects) :
    (job.reqHeaders.verb = .options ∧ input.boxResp = none) ∨
      ∃ boxResp statusCode, input.boxResp = some boxResp ∧
        P.statusCodeOf boxResp.statusCode = .ok statusCode ∧
        sent = orDefault P.toHttpLibrary statusCode (prepare P.toHttpLibrary
          (P.pickContentEncoding job.reqHeaders) job.reqHeaders boxResp statusCode) := by
  cases hat : job.stage with
  | syncRequest =>
    cases input with
    | perform sending =>
      simp only [ClientJob.step, hat] at hsent
      exact .inl ⟨verb_of_onSyncRequest hsent, rfl⟩
    | _ => simp [ClientJob.step, hat] at hsent
  | authenticatingRequest =>
    cases input with
    | authResponse resp sending =>
      simp only [ClientJob.step, hat] at hsent
      exact absurd hsent (not_sent_onRequestAuthenticated _ resp sending)
    | _ => simp [ClientJob.step, hat] at hsent
  | relaying =>
    cases input with
    | foyerResponse resp =>
      simp only [ClientJob.step, hat] at hsent
      exact .inr (sent_onRelayed hsent)
    | _ => simp [ClientJob.step, hat] at hsent
  | _ =>
    rw [hat] at hstage
    cases hstage

end Sent

/-- **The body matches the headers, except for the default body of an error in answer to
`HEAD`.** -/
theorem bodyMatches_iff {config : Config} {P : SessionLibrary M}
    {inflate : Bool → Bytes → Option Bytes} (h : Reliable P.toHttpLibrary inflate)
    {job : ClientJob M} (hstage : job.stage.isRequest = true) {c : Context} {input : JobInput}
    {sent : ResponseHeaders M × Bytes} (hsent : .sent sent ∈ (job.step config P c input).effects) :
    BodyMatches inflate job.reqHeaders.verb input.boxResp sent ↔
      ∀ boxResp ∈ input.boxResp, job.reqHeaders.verb = .head →
        boxResp.statusCode.toInt < 400 := by
  rcases sent_cases hstage hsent with ⟨hverb, hnone⟩ | ⟨boxResp, statusCode, hsome, hstatus, rfl⟩
  · rw [hnone, hverb]
    refine iff_of_true ⟨fun _ hmem => ?_, fun _ hmem => ?_, fun hhead => ?_⟩ fun _ hmem => ?_
    · cases hmem
    · cases hmem
    · cases hhead
    · cases hmem
  · have hcast : (statusCode : ℤ) = boxResp.statusCode.toInt := h.toInt_statusCodeOf _ _ hstatus
    have herror : boxResp.statusCode.toInt < 400 ↔ statusCode / 100 < 4 := by omega
    rw [hsome, h.bodyMatches_orDefault_iff, ← herror]
    exact ⟨fun hhead _ hresp hverb => Option.some_inj.mp hresp ▸ hhead hverb,
      fun hhead => hhead boxResp rfl⟩

/-! ## A box that answers with a line of text -/

def textEntity : Bytes := asciiBytes "hello"

/-- What `Deflator` makes of the text. -/
def gzipEntity : Bytes :=
  [0x1f, 0x8b, 8, 0, 0, 0, 0, 0, 0, 3, 0xcb, 0x48, 0xcd, 0xc9, 0xc9, 7, 0, 0x86, 0xa6, 0x10, 0x36,
    5, 0, 0, 0]

def inflateText : Bool → Bytes → Option Bytes
  | _, 0 :: entity => some entity
  | gzip, entity => if gzip ∧ entity = gzipEntity then some textEntity else none

/-- Poseidon as far as the two requests below use it. -/
def bodyLibrary : SessionLibrary (MultimapInterface.list Bytes Bytes) :=
  { clientLibrary with
    pickContentEncoding := fun reqHeaders =>
      if clientLibrary.get reqHeaders.headers (asciiBytes "Accept-Encoding") = asciiBytes "gzip"
      then .gzip else .identity
    statusCodeOf := fun statusCode =>
      if statusCode.toInt < 0 then .error "bad numeric conversion: negative overflow"
      else if 2 ^ 32 ≤ statusCode.toInt then .error "bad numeric conversion: positive overflow"
      else .ok statusCode.toInt.toNat
    statusCodeDesc := fun statusCode =>
      if statusCode = 200 then asciiBytes "OK" else asciiBytes "Not Found"
    deflate := fun gzip entity => if gzip ∧ entity = textEntity then gzipEntity else 0 :: entity
    makeDefaultResponse := fun statusCode headers =>
      (⟨10001, statusCode, asciiBytes "Not Found", (MultimapInterface.list Bytes Bytes).set headers
          (asciiBytes "Content-Type") (asciiBytes "text/html")⟩,
        asciiBytes "<html></html>") }

theorem reliable_bodyLibrary : Reliable bodyLibrary.toHttpLibrary inflateText where
  same_self _ := decide_eq_true rfl
  sameText_of_same key key' h := by
    obtain rfl : key = key' := of_decide_eq_true h
    exact decide_eq_true rfl
  toInt_statusCodeOf statusCode n h := by
    simp only [bodyLibrary] at h
    split_ifs at h with hneg hbig
    cases h
    exact Int.toNat_of_nonneg (not_lt.mp hneg)
  inflate_deflate gzip entity := by
    simp only [bodyLibrary]
    split
    case isTrue h => rw [h.1, h.2]; rfl
    case isFalse => rfl
  deflate_ne_nil gzip entity := by
    simp only [bodyLibrary]
    split
    · exact List.cons_ne_nil _ _
    · exact List.cons_ne_nil _ _
  makeDefaultResponse_ne_nil _ _ _ := List.cons_ne_nil 0x3c (asciiBytes "html></html>")
  keepsHeaders _ _ := .inr ⟨asciiBytes "text/html", fun _ => rfl⟩

/-- A request that waits for the box. -/
def bodyJob (verb : Verb) : ClientJob (MultimapInterface.list Bytes Bytes) :=
  ⟨0, 0, ⟨verb, asciiBytes "/", 10001, [], [(asciiBytes "Accept-Encoding", asciiBytes "gzip")]⟩, [],
    .relaying⟩

def bodyContext : Context := ⟨0, .empty, .new 1 (asciiBytes "192.0.2.1")⟩

def bodyInput (statusCode : Int64) (entity : Bytes) : JobInput :=
  .foyerResponse (.ok ⟨⟨statusCode, [], entity⟩, 2⟩)

/-- What becomes of the response. -/
def bodyEffects (verb : Verb) (statusCode : Int64) (entity : Bytes) :
    List (GateEffect (MultimapInterface.list Bytes Bytes)) :=
  ((bodyJob verb).step clientConfig bodyLibrary bodyContext (bodyInput statusCode entity)).effects

/-- The text is sent compressed. -/
theorem bodyMatches_iff_trial : ∃ sent, bodyEffects .get 200 textEntity = [.sent sent] ∧
    sent.2 = gzipEntity ∧
      BodyMatches inflateText .get (bodyInput 200 textEntity).boxResp sent := by
  have hsent : .sent _ ∈ ((bodyJob .get).step clientConfig bodyLibrary bodyContext
      (bodyInput 200 textEntity)).effects := List.mem_singleton.mpr rfl
  refine ⟨_, rfl, by decide +kernel, (bodyMatches_iff reliable_bodyLibrary rfl hsent).mpr ?_⟩
  rintro _ - hhead
  cases hhead

/-- A box that has nothing says so, and the response to `HEAD` has a body. -/
theorem not_bodyMatches : ∃ sent, bodyEffects .head 404 [] = [.sent sent] ∧
    ¬ BodyMatches inflateText .head (bodyInput 404 []).boxResp sent := by
  refine ⟨_, rfl, fun h => ?_⟩
  exact absurd (h.head rfl) (by decide +kernel)

end Circe.Gate
