import Mathlib
import CrudRoutes.Proofs.Envelope
import CrudRoutes.Server.Router
import CrudRoutes.Server.Gateway

/-!
HTTP and the realtime gateway as two views of one route.

An envelope is a request as its caller means it: an id, ids, query fields and a body. HTTP
writes it down as a path, a query string and a body text; the realtime transport as the
parameters of a call. For plain envelopes (ids that are not empty, have no blank at either end
and no comma, and no ids on `GetMany`) both decode to the same request, or both refuse it as an
invalid envelope. Serving the request and dispatching the call then run the route alike: the
same storage afterwards, and one result reported in each transport's terms.

Two things keep envelopes apart that are not plain: HTTP drops a blank id that the realtime
transport refuses, and reads ids sent to `GetMany` as a query field.
-/

namespace CrudRoutes

theorem Text.length_foldName (s : String) : (Text.foldName s).length = s.length := by
  simp [Text.foldName, ← String.length_toList, String.toList_map]

namespace Bind

theorem members_nil (name : String) : members [] name = [] := rfl

theorem members_cons_self (v : Value) (fs : Fields) (name : String) :
    members ((name, v) :: fs) name = v :: members fs name := by
  simp [members]

theorem members_cons_of_length_ne {k name : String} (v : Value) (fs : Fields)
    (h : k.length ≠ name.length) : members ((k, v) :: fs) name = members fs name := by
  have hne : (Text.foldName k == Text.foldName name) = false := by
    rw [beq_eq_false_iff_ne]
    intro heq
    exact h (by simpa [Text.length_foldName] using congrArg String.length heq)
  simp [members, hne]

theorem members_append (fs gs : Fields) (name : String) :
    members (fs ++ gs) name = members fs name ++ members gs name := by
  simp [members]

theorem members_optional_self (o : Option Value) (k : String) :
    members (o.toList.map fun v => (k, v)) k = o.toList := by
  cases o <;> simp [members_cons_self, members_nil]

theorem members_optional_of_length_ne (o : Option Value) {k name : String}
    (h : k.length ≠ name.length) : members (o.toList.map fun v => (k, v)) name = [] := by
  cases o <;> simp [members_cons_of_length_ne _ _ h, members_nil]

theorem mapM_textItem_strs (l : List String) (kept : Nat → String) (k : Nat) :
    ((l.map Value.str).zipIdx k).mapM (fun x => textItem (kept x.2) x.1) = some l := by
  induction l generalizing k with
  | nil => rfl
  | cons s l ih =>
    simp only [List.map_cons, List.zipIdx_cons, List.mapM_cons, ih]
    rfl

theorem Slots.bind_strs (l : List String) :
    Slots.bind "" textItem ({} : Slots String) (.arr (l.map .str)) =
      some { kept := l, length := some l.length } := by
  cases l with
  | nil => rfl
  | cons s l =>
    have hm := mapM_textItem_strs (s :: l) (fun i => (([] : List String)[i]?).getD "") 0
    rw [List.map_cons] at hm
    simp only [Slots.bind, List.map_cons]
    rw [hm]
    simp

theorem texts_strs (fs : Fields) (name : String) (l : List String)
    (h : members fs name = [.arr (l.map .str)]) : texts fs name = some (some l) := by
  simp only [texts, list, h, List.foldlM_cons, List.foldlM_nil, Slots.bind_strs]
  simp [Slots.items]

end Bind

/-- A request as its caller means it, before a transport writes it down: the id of the path, the
ids, the query fields, and the body, absent or a JSON value. -/
structure Envelope where
  id : String := ""
  ids : List String := []
  query : Fields := []
  body : Option Value := none

namespace Envelope

def bodyText (e : Envelope) : BodyText :=
  match e.body with
  | none => .absent
  | some v => .value v

/-- The parameters of a realtime call carrying the envelope. -/
def params (e : Envelope) : Fields :=
  [("id", .str e.id), ("ids", .arr (e.ids.map .str)), ("query", .obj e.query)] ++
    e.body.toList.map fun v => ("body", v)

theorem read_params (e : Envelope) :
    Route.Payload.read? (some (.obj e.params)) =
      some { id := e.id, ids := e.ids, query := Bind.mapOver [] e.query, body := e.bodyText } := by
  -- the four names have four lengths, so no member is taken for another
  have hskip := @Bind.members_cons_of_length_ne
  have hnone := @Bind.members_optional_of_length_ne
  have hid : Bind.members e.params "id" = [.str e.id] := by
    simp (disch := decide) only [params, Bind.members_append, Bind.members_cons_self, hskip, hnone,
      Bind.members_nil, List.append_nil]
  have hids : Bind.members e.params "ids" = [.arr (e.ids.map .str)] := by
    simp (disch := decide) only [params, Bind.members_append, Bind.members_cons_self, hskip, hnone,
      Bind.members_nil, List.append_nil]
  have hquery : Bind.members e.params "query" = [.obj e.query] := by
    simp (disch := decide) only [params, Bind.members_append, Bind.members_cons_self, hskip, hnone,
      Bind.members_nil, List.append_nil]
  have hbody : Bind.members e.params "body" = e.body.toList := by
    simp (disch := decide) only [params, Bind.members_append, Bind.members_optional_self, hskip,
      Bind.members_nil, List.nil_append]
  have hbodyText : (match Bind.member? e.params "body" with
      | none => BodyText.absent
      | some v => .value v) = e.bodyText := by
    simp only [Bind.member?, hbody, bodyText]
    cases e.body <;> rfl
  simp only [Route.Payload.read?, Bind.text, hid, Bind.texts_strs _ _ _ hids, Bind.map?, hquery]
  simp [Bind.mapItem]
  exact hbodyText

end Envelope

namespace Route

def queryKind (r : Route) (name : String) : Option Kind :=
  Kind.ofName? (((r.shapes.query.bind (·.field? name)).map (·.kind)).getD "")

/-- How a query field is written as a value of a query string: a number field as a text that
reads as the number, a boolean field as a text that reads as the boolean, any other field as its
text. -/
inductive WritesField (r : Route) : String × Value → String × List String → Prop
  | number {k t : String} {x : Float} : r.queryKind k = some .number →
      Text.parseFloat? t = some x → r.WritesField (k, .num x) (k, [t])
  | bool {k t : String} {b : Bool} : r.queryKind k = some .bool →
      Text.parseBool? t = some b → r.WritesField (k, .bool b) (k, [t])
  | text {k t : String} : r.queryKind k ≠ some .number → r.queryKind k ≠ some .bool →
      r.WritesField (k, .str t) (k, [t])

theorem queryFilter_written {r : Route} {q : Fields} {written : List (String × List String)}
    (h : List.Forall₂ r.WritesField q written) : r.queryFilter written = some (Bind.mapOver [] q) := by
  unfold queryFilter Bind.mapOver
  generalize ([] : Fields) = acc
  induction h generalizing acc with
  | nil => rfl
  | cons hw _ ih =>
    cases hw with
    | number hk hx =>
      unfold queryKind at hk
      simp only [List.foldlM_cons, List.getLast?_singleton, hk, hx, Option.map_some,
        List.foldl_cons, Value.asMap]
      exact ih _
    | bool hk hb =>
      unfold queryKind at hk
      simp only [List.foldlM_cons, List.getLast?_singleton, hk, hb, Option.map_some,
        List.foldl_cons, Value.asMap]
      exact ih _
    | text hn hb =>
      unfold queryKind at hn hb
      simp only [List.foldlM_cons, List.getLast?_singleton]
      simp only [Option.bind_eq_bind, Option.bind_some, List.foldl_cons, Value.asMap]
      exact ih _

theorem httpIds_plain {ids : List String}
    (h : ∀ i ∈ ids, i ≠ "" ∧ Text.trimBlanks i = i ∧ i.splitOn "," = [i]) :
    (ids.flatMap fun v => ((v.splitOn ",").map Text.trimBlanks).filter (!·.isEmpty)) = ids := by
  induction ids with
  | nil => rfl
  | cons i is ih =>
    obtain ⟨hne, htrim, hsplit⟩ := h i List.mem_cons_self
    have hrest := ih fun j hj => h j (List.mem_cons_of_mem i hj)
    simp [hsplit, htrim, hne, hrest]

end Route

namespace Envelope

/-- Which envelopes both transports carry alike: ids that are not empty, have no blank at either
end and no comma, and none on a `GetMany` request. -/
structure Plain (r : Route) (e : Envelope) : Prop where
  ids : ∀ i ∈ e.ids, i ≠ "" ∧ Text.trimBlanks i = i ∧ i.splitOn "," = [i]
  getMany : r.kind = .getMany → e.ids = []

def httpValues (r : Route) (e : Envelope) (written : List (String × List String)) :
    List (String × List String) :=
  (if r.kind = .getMany then written else []) ++ (if e.ids = [] then [] else [("ids", e.ids)])

/-- An HTTP request of a route that writes an envelope down: its query string reads as the
envelope's query values, its body as the envelope's body, within the size HTTP accepts. -/
structure WrittenAs (r : Route) (e : Envelope) (req : Http.Request) : Prop where
  query : ∃ written, (r.kind = .getMany → List.Forall₂ r.WritesField e.query written) ∧
    Url.parseQuery req.query = e.httpValues r written
  body : BodyText.ofText req.body = e.bodyText
  size : req.body.utf8ByteSize ≤ Http.maxBodyBytes

variable {r : Route} {e : Envelope} {req : Http.Request}

theorem decodeHttp_eq {written : List (String × List String)} {text : String} (hp : e.Plain r)
    (hw : r.kind = .getMany → List.Forall₂ r.WritesField e.query written) :
    r.decodeHttp e.id (e.httpValues r written) text =
      r.decode httpFaults e.id e.ids (Bind.mapOver [] e.query) (BodyText.ofText text) := by
  unfold Route.decodeHttp
  by_cases hk : r.kind = .getMany
  · -- the ids are not read; the query fields are
    have hb : (r.kind == .getMany) = true := RouteKind.beq_iff_eq.2 hk
    simp only [httpValues, if_pos hk, hp.getMany hk, ↓reduceIte, List.append_nil, hb,
      Route.queryFilter_written (hw hk), pure_bind]
    refine Route.decode_congr ?_ fun _ => rfl
    intro h
    rw [hk] at h
    cases h
  · -- the query is not read; the ids are
    have hb : (r.kind == .getMany) = false := by
      cases h : (r.kind == .getMany)
      · rfl
      · exact absurd (RouteKind.beq_iff_eq.1 h) hk
    have hids : ((((if e.ids = [] then [] else [("ids", e.ids)]) : List (String × List String)).filter
        (·.1 == "ids")).flatMap (·.2)) = e.ids := by
      split <;> simp_all
    simp only [httpValues, if_neg hk, List.nil_append, hb, Bool.false_eq_true, if_false, pure_bind,
      hids, Route.httpIds_plain hp.ids]
    exact Route.decode_congr (fun _ => rfl) fun h => absurd h hk

theorem decodePayload_eq (r : Route) (e : Envelope) :
    r.decodePayload (some (.obj e.params)) =
      r.decode payloadFaults e.id e.ids (Bind.mapOver [] e.query) e.bodyText := by
  simp [Route.decodePayload, read_params]

theorem decode_agree (hp : e.Plain r) (hw : e.WrittenAs r req) :
    r.decodePayload (some (.obj e.params)) =
      (r.decodeHttp e.id (Url.parseQuery req.query) req.body).mapError
        fun _ => Fault.invalidPayload := by
  obtain ⟨written, hwq, hq⟩ := hw.query
  rw [hq, decodePayload_eq, decodeHttp_eq hp hwq, hw.body]
  exact Route.decode_one_fault _

theorem decodeHttp_refused (hp : e.Plain r) (hw : e.WrittenAs r req) {f : Fault}
    (h : r.decodeHttp e.id (Url.parseQuery req.query) req.body = .error f) :
    f = Fault.invalidBody ∨ f = Fault.invalidQuery := by
  obtain ⟨written, hwq, hq⟩ := hw.query
  rw [hq, decodeHttp_eq hp hwq] at h
  exact Route.decode_error h

end Envelope

/-- The result of a route on a decoded request, and the storage after it; a refused envelope
leaves the storage as it was. -/
def Route.runDecoded (r : Route) (p : Option Principal) (d : Except Fault Request)
    (st : Storage) : Except Fault Value × Storage :=
  match d with
  | .error f => (.error f, st)
  | .ok req => (r.handle p req).run st

/-- A realtime call of a route's event that carries an envelope. -/
structure Call.Carries (g : Gateway) (r : Route) (e : Envelope) (c : Call) : Prop where
  version : c.version = "2.0"
  method : (Text.trimBlanks c.method).isEmpty = false
  event : c.method ∉ ["authenticate", "auth.login", "auth.whoami", "events.list"]
  route : g.route? c.method = some r
  params : c.params = some (.obj e.params)

namespace Server

/-- A server after a call of a route: the storage the call left, and the call counted. -/
def afterCall (s : Server) (transport service : String) (out : Except Fault Value × Storage) :
    Server :=
  { s with
    deploy := { s.deploy with storage := out.2 }
    metrics := s.metrics.map (·.observe transport service (outcomeOf (faultOf out.1))) }

variable {r : Route} {p : Option Principal} {s : Server}

theorem serveRoute_run {req : Http.Request} {id : String}
    (hsize : req.body.utf8ByteSize ≤ Http.maxBodyBytes) :
    (serveRoute r p req id).run s =
      let out := r.runDecoded p (r.decodeHttp id (Url.parseQuery req.query) req.body)
        s.deploy.storage
      ((match out.1 with
        | .ok v => Http.Response.ofJson r.kind.successStatus v
        | .error f => .ofFault f), s.afterCall transportHttp r.names.service out) := by
  have hsmall : ¬ req.body.utf8ByteSize > Http.maxBodyBytes := by omega
  simp only [serveRoute, hsmall, if_false]
  cases r.decodeHttp id (Url.parseQuery req.query) req.body with
  | error f =>
    simp [Route.runDecoded, observe, afterCall, StateT.run, bind, StateT.bind, pure, StateT.pure,
      modify, modifyGet, MonadStateOf.modifyGet, StateT.modifyGet]
  | ok req =>
    simp only [Route.runDecoded, store, observe, afterCall, StateT.run, bind, StateT.bind, pure,
      modify, modifyGet, MonadStateOf.modifyGet, StateT.modifyGet]
    generalize ExceptT.run (r.handle p req) s.deploy.storage = out
    obtain ⟨res, st⟩ := out
    cases res <;> rfl

theorem dispatch_route {g : Gateway} {session : Option Principal} {c : Call}
    (hv : c.version = "2.0") (hm : (Text.trimBlanks c.method).isEmpty = false)
    (hres : c.method ∉ ["authenticate", "auth.login", "auth.whoami", "events.list"])
    (hg : g.route? c.method = some r) (hcaller : (callCaller session c).run s = (.ok p, s)) :
    (dispatch g session c).run s =
      let out := r.runDecoded p (r.decodePayload c.params) s.deploy.storage
      (({ outcome := match out.1 with
            | .ok v => .ok v
            | .error f => .error (Answer.faultError f)
          id := c.id }, session), s.afterCall g.transport r.names.service out) := by
  have hok : (c.version != "2.0" || (Text.trimBlanks c.method).isEmpty) = false := by
    simp [hv, hm]
  simp only [dispatch, hok, Bool.false_eq_true, if_false]
  split
  · rename_i h; simp [h] at hres
  · rename_i h; simp [h] at hres
  · rename_i h; simp [h] at hres
  · rename_i h; simp [h] at hres
  · simp only [hg, StateT.run_bind, hcaller]
    cases r.decodePayload c.params with
    | error f =>
      simp [Route.runDecoded, observe, afterCall, StateT.run, bind, StateT.bind, pure, StateT.pure,
        modify, modifyGet, MonadStateOf.modifyGet, StateT.modifyGet]
    | ok req =>
      simp only [Route.runDecoded, store, observe, afterCall, StateT.run, bind, StateT.bind, pure,
        modify, modifyGet, MonadStateOf.modifyGet, StateT.modifyGet]
      generalize ExceptT.run (r.handle p req) s.deploy.storage = out
      obtain ⟨res, st⟩ := out
      cases res <;> rfl

end Server

def clientCodes : List (Nat × Int) := [(400, 40000), (401, 40100), (403, 40300)]

/-- An HTTP response and a realtime outcome that report one result of a route. -/
inductive Route.Reports (r : Route) : Http.Response → Except CallError Value → Prop
  | value (v : Value) : r.Reports (.ofJson r.kind.successStatus v) (.ok v)
  | client {status : Nat} {code : Int} (k : ClientKind) (m : String) :
      (status, code) ∈ clientCodes → r.Reports (.failure status m) (.error ⟨code, m, k.code⟩)
  | internal :
      r.Reports (.failure 500 "Internal server error") (.error ⟨50000, "internal error", ""⟩)
  | envelope (m : String) : m = "Invalid request body" ∨ m = "Invalid query" →
      r.Reports (.failure 400 m) (.error ⟨40000, "Invalid payload", ClientKind.invalidEnvelope.code⟩)

theorem Route.reports_fault (r : Route) (f : Fault) :
    r.Reports (.ofFault f) (.error (Answer.faultError f)) := by
  unfold Http.Response.ofFault Answer.faultError Http.statusOf
  cases h : f.client? with
  | none => exact .internal
  | some km =>
    obtain ⟨k, m⟩ := km
    cases k <;> exact .client _ m (by simp [clientCodes])

theorem Route.reports_refused (r : Route) {f : Fault}
    (hf : f = Fault.invalidBody ∨ f = Fault.invalidQuery) :
    r.Reports (.ofFault f) (.error (Answer.faultError Fault.invalidPayload)) := by
  rcases hf with rfl | rfl
  · exact .envelope _ (.inl rfl)
  · exact .envelope _ (.inr rfl)

theorem Server.caller_eq_callCaller (req : Http.Request) (c : Call) (session : Option Principal)
    (s : Server) (ht : Http.bearerToken req.authorization ≠ "") (hauth : s.auth.isSome = true)
    (hparams : c.textParams ["token"] = some [Http.bearerToken req.authorization]) :
    (Server.caller req).run s = (Server.callCaller session c).run s := by
  have hnone : s.auth.isNone = false := by simpa using hauth
  have hne : s.auth ≠ none := Option.isSome_iff_ne_none.1 hauth
  simp [Server.caller, Server.callCaller, hparams, ht, hnone, hne, StateT.run, bind, StateT.bind,
    get, getThe, MonadStateOf.get, StateT.get, pure, StateT.pure]

/-- HTTP and the realtime transport are two views of one route. For a plain envelope written
down by both, the realtime decoding is the HTTP decoding with every refusal reported as an invalid
payload, and HTTP refuses only an invalid body or query. Serving the request over HTTP and
dispatching the call for the same caller leave the same deployment, and report one result: the
same value, or corresponding status and code with one message for a fault of the handling.
A token resolves to the same caller over both. -/
theorem transports_agree (r : Route) (e : Envelope) (req : Http.Request) (g : Gateway) (c : Call)
    (hp : e.Plain r) (hw : e.WrittenAs r req) (hc : c.Carries g r e) :
    (r.decodePayload c.params = (r.decodeHttp e.id (Url.parseQuery req.query) req.body).mapError
        fun _ => Fault.invalidPayload) ∧
    (∀ f, r.decodeHttp e.id (Url.parseQuery req.query) req.body = .error f →
        f = Fault.invalidBody ∨ f = Fault.invalidQuery) ∧
    (∀ (p : Option Principal) (s : Server), (Server.callCaller p c).run s = (.ok p, s) →
      ((Server.serveRoute r p req e.id).run s).2.deploy = ((Server.dispatch g p c).run s).2.deploy ∧
      r.Reports ((Server.serveRoute r p req e.id).run s).1
        ((Server.dispatch g p c).run s).1.1.outcome) ∧
    (∀ (hreq : Http.Request) (c' : Call) (session : Option Principal) (s : Server),
      Http.bearerToken hreq.authorization ≠ "" → s.auth.isSome = true →
      c'.textParams ["token"] = some [Http.bearerToken hreq.authorization] →
      (Server.caller hreq).run s = (Server.callCaller session c').run s) := by
  have hdec : r.decodePayload c.params =
      (r.decodeHttp e.id (Url.parseQuery req.query) req.body).mapError
        fun _ => Fault.invalidPayload := by
    rw [hc.params, Envelope.decode_agree hp hw]
  refine ⟨hdec, fun f h => Envelope.decodeHttp_refused hp hw h, ?_, Server.caller_eq_callCaller⟩
  intro p s hcaller
  rw [Server.serveRoute_run hw.size,
    Server.dispatch_route hc.version hc.method hc.event hc.route hcaller, hdec]
  -- both transports run the route on one decoded request, or both refuse the envelope
  cases hd : r.decodeHttp e.id (Url.parseQuery req.query) req.body with
  | error f =>
    exact ⟨rfl, r.reports_refused (Envelope.decodeHttp_refused hp hw hd)⟩
  | ok d =>
    refine ⟨rfl, ?_⟩
    simp only [Except.mapError, Route.runDecoded]
    generalize (r.handle p d).run s.deploy.storage = out
    obtain ⟨res, st⟩ := out
    cases res with
    | ok v => exact .value v
    | error f => exact r.reports_fault f

theorem get_one_served_alike :
    let r : Route := { (default : Route) with kind := .getOne }
    let e : Envelope := { id := "n1" }
    let req : Http.Request := { method := "GET", path := "/notes/n1" }
    let g : Gateway := { events := [("get-note", r)] }
    let c : Call := { version := "2.0", method := "get-note", params := some (.obj e.params) }
    e.Plain r ∧ e.WrittenAs r req ∧ c.Carries g r e ∧
    ((r.decodePayload c.params = (r.decodeHttp e.id (Url.parseQuery req.query) req.body).mapError
        fun _ => Fault.invalidPayload) ∧
    (∀ f, r.decodeHttp e.id (Url.parseQuery req.query) req.body = .error f →
        f = Fault.invalidBody ∨ f = Fault.invalidQuery) ∧
    (∀ (p : Option Principal) (s : Server), (Server.callCaller p c).run s = (.ok p, s) →
      ((Server.serveRoute r p req e.id).run s).2.deploy = ((Server.dispatch g p c).run s).2.deploy ∧
      r.Reports ((Server.serveRoute r p req e.id).run s).1
        ((Server.dispatch g p c).run s).1.1.outcome) ∧
    (∀ (hreq : Http.Request) (c' : Call) (session : Option Principal) (s : Server),
      Http.bearerToken hreq.authorization ≠ "" → s.auth.isSome = true →
      c'.textParams ["token"] = some [Http.bearerToken hreq.authorization] →
      (Server.caller hreq).run s = (Server.callCaller session c').run s)) := by
  intro r e req g c
  have hp : e.Plain r := ⟨by simp [e], by simp [e]⟩
  have hw : e.WrittenAs r req := ⟨⟨[], by simp [r], by cbv⟩, by cbv, by decide⟩
  have hc : c.Carries g r e := ⟨rfl, by cbv, by decide, rfl, rfl⟩
  exact ⟨hp, hw, hc, transports_agree r e req g c hp hw hc⟩

/-- Ids keep the transports apart when they are not plain: HTTP drops a blank id that the
realtime transport refuses, and reads ids sent to `GetMany` as a query field that the realtime
transport ignores. -/
theorem ids_split_transports :
    let del : Route := { (default : Route) with kind := .deleteMany }
    let many : Route := { (default : Route) with kind := .getMany }
    ((∃ req, del.decodeHttp "" [("ids", ["", "n1"])] "" = .ok req ∧ req.ids = ["n1"]) ∧
      del.decodePayload (some (.obj ({ ids := ["", "n1"] } : Envelope).params)) =
        .error Fault.invalidPayload) ∧
    ((∃ req, many.decodeHttp "" [("ids", ["n1"])] "" = .ok req ∧
        req.query.conditions = [("ids", .str "n1")]) ∧
      (∃ req, many.decodePayload (some (.obj ({ ids := ["n1"] } : Envelope).params)) = .ok req ∧
        req.query.conditions = [])) := by
  intro del many
  have hdel : (del.kind == .getMany) = false := rfl
  have hmany : (many.kind == .getMany) = true := rfl
  have hgm : (RouteKind.getMany == RouteKind.getMany) = true := rfl
  have hdm : (RouteKind.deleteMany == RouteKind.getMany) = false := rfl
  have hshape : (default : Route).shapes.query = none := rfl
  have hblank : Text.trimBlanks "" = "" := by decide
  have htrim : Text.trimBlanks "n1" = "n1" := by decide
  -- HTTP splits the ids of the query string at commas and keeps the non-blank ones
  have hids : ((([("ids", ["", "n1"])] : List (String × List String)).filter (·.1 == "ids")).flatMap
      (·.2)).flatMap (fun v => ((v.splitOn ",").map Text.trimBlanks).filter (!·.isEmpty)) =
        ["n1"] := by cbv
  have hq : many.queryFilter [("ids", ["n1"])] = some [("ids", .str "n1")] := by cbv
  refine ⟨⟨?_, ?_⟩, ?_, ?_⟩
  · simp only [Route.decodeHttp, hids, hdel, Bool.false_eq_true, if_false, pure_bind]
    rw [Route.decode_eq]
    simp [del, Route.envelopeId?, Route.envelopeIds?, Route.envelopeQuery?, Route.envelopeBody?,
      RouteKind.targetsResource, RouteKind.targetsIds, htrim, hdm]
  · rw [Envelope.decodePayload_eq, Route.decode_eq]
    simp [del, Route.envelopeId?, Route.envelopeIds?, RouteKind.targetsResource,
      RouteKind.targetsIds, payloadFaults, hblank]
  · simp only [Route.decodeHttp, hmany, if_true, hq, pure_bind]
    rw [Route.decode_eq]
    simp [many, Route.envelopeId?, Route.envelopeIds?, Route.envelopeQuery?, Route.envelopeBody?,
      RouteKind.targetsResource, RouteKind.targetsIds, fitsWith, hgm, hshape]
  · rw [Envelope.decodePayload_eq, Route.decode_eq]
    simp [many, Route.envelopeId?, Route.envelopeIds?, Route.envelopeQuery?, Route.envelopeBody?,
      RouteKind.targetsResource, RouteKind.targetsIds, fitsWith, Bind.mapOver, hgm, hshape]

end CrudRoutes
