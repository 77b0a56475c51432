import Mathlib
import CrudRoutes.Proofs.Transport
import CrudRoutes.Proofs.Store.Run
import CrudRoutes.Server.Connection

/-!
The realtime session as a state machine. A connection keeps one principal. A websocket opens
with the principal of its handshake's token, a unix socket anonymously, and afterwards only two
kinds of call move it: `authenticate` with a token the server accepts, and `auth.login` with an
address and password the users entity accepts (`Server.bound?`). Every other message, a failed
authentication included, keeps the session, and a token a call carries names that call's caller
only (`Server.callerFor`).

The step is `Server.dispatch_session`: the session after a call is the principal the call binds,
or the session before. `Connection.Answers` strings the steps of a connection together, with the
reading of the stream and the outbox between them, and `Connection.sends_answer` shows that every
sequence of texts sent is such a run. Along it the principal is the one the last binding message
gave (`Server.sessionAfter_eq`).
-/

namespace CrudRoutes

theorem AuthService.authenticate_run (a : AuthService) (token : String) (st : Storage) :
    (a.authenticate token).run st =
      ((a.verify token st.host.now).elim (.error Fault.unauthorized) .ok, st) := by
  rw [authenticate, StoreM.run_bind, Storage.now_run]
  cases h : a.verify token st.host.now <;> simp [h]

def Call.token? (c : Call) : Option String :=
  match c.textParams ["token"] with
  | some [token] => if token.isEmpty then none else some token
  | _ => none

namespace ServerM

theorem run_bind {α β : Type} (x : ServerM α) (f : α → ServerM β) (σ : Server) :
    (x >>= f).run σ = (f (x.run σ).1).run (x.run σ).2 := rfl

@[simp] theorem run_pure {α : Type} (a : α) (σ : Server) : (pure a : ServerM α).run σ = (a, σ) :=
  rfl

@[simp] theorem run_get (σ : Server) : (get : ServerM Server).run σ = (σ, σ) := rfl

end ServerM

namespace Server

theorem store_run {α : Type} (m : StoreM α) (σ : Server) :
    (store m).run σ = ((m.run σ.deploy.storage).1,
      { σ with deploy := { σ.deploy with storage := (m.run σ.deploy.storage).2 } }) := rfl

/-- The principal of a token on a server: none without authentication, or for a token that does
not verify at the server's clock. -/
def tokenPrincipal? (σ : Server) (token : String) : Option Principal :=
  σ.auth.bind fun a => a.verify token σ.deploy.storage.host.now

theorem authenticate_run (σ : Server) (token : String) :
    (authenticate token).run σ =
      ((σ.tokenPrincipal? token).elim (.error Fault.unauthorized) .ok, σ) := by
  obtain ⟨deploy, auth, metrics, served⟩ := σ
  cases auth with
  | none => rfl
  | some a =>
    cases hv : a.verify token deploy.storage.host.now <;>
      simp [authenticate, tokenPrincipal?, hv, store_run, AuthService.authenticate_run] <;> rfl

/-- The caller of one call on a server: the principal of the call's own token when the server
authenticates and the call carries one, refused as unauthorized when the token does not verify;
otherwise the session's principal. -/
def callerFor (σ : Server) (session : Option Principal) (c : Call) : Except Fault (Option Principal) :=
  match σ.auth, c.token? with
  | some _, some t => (σ.tokenPrincipal? t).elim (.error Fault.unauthorized) (.ok ∘ some)
  | _, _ => .ok session

theorem callCaller_run (σ : Server) (session : Option Principal) (c : Call) :
    (callCaller session c).run σ = (σ.callerFor session c, σ) := by
  unfold callCaller callerFor Call.token?
  cases hA : σ.auth with
  | none => simp [hA]; rfl
  | some a =>
    -- only a single text is read as the call's own token
    rcases c.textParams ["token"] with _ | _ | ⟨token, _ | _⟩
    · simp; rfl
    · simp; rfl
    · by_cases he : token.isEmpty
      · simp [he]; rfl
      · simp only [ServerM.run_bind, ServerM.run_get, hA, he, Option.isNone_some,
          Bool.false_eq_true, ↓reduceIte, authenticate_run]
        cases σ.tokenPrincipal? token <;> rfl
    · simp; rfl

theorem handshake_run (authorization queryToken : String) (σ : Server) :
    (handshake authorization queryToken).run σ =
      (if (handshakeToken authorization queryToken).isEmpty ∨ σ.auth = none then .ok none
       else (σ.tokenPrincipal? (handshakeToken authorization queryToken)).elim
         (.error (.failure 401 "Unauthorized")) (.ok ∘ some), σ) := by
  unfold handshake
  by_cases he : (handshakeToken authorization queryToken).isEmpty
  · simp [he]; rfl
  · cases hA : σ.auth with
    | none => simp [he, hA]; rfl
    | some a =>
      simp only [ServerM.run_bind, ServerM.run_get, he, hA, Option.isNone_some, Bool.or_false,
        Bool.false_eq_true, ↓reduceIte, authenticate_run, reduceCtorEq, or_false]
      cases σ.tokenPrincipal? (handshakeToken authorization queryToken) <;> rfl

theorem dispatch_whoami {g : Gateway} {s : Option Principal} {c : Call} (σ : Server)
    (hv : c.version = "2.0") (hm : c.method = "auth.whoami") :
    (dispatch g s c).run σ =
      (({ outcome := (((σ.callerFor s c).bind fun q => q.elim (.error Fault.unauthorized) .ok).map
            Principal.toValue).mapError Answer.faultError, id := c.id }, s), σ) := by
  have hblank : (Text.trimBlanks "auth.whoami").isEmpty = false := by decide
  simp only [dispatch, hv, hm, hblank, bne_self_eq_false, Bool.false_or, Bool.false_eq_true,
    ↓reduceIte, ServerM.run_bind, callCaller_run]
  rcases σ.callerFor s c with f | _ | p <;> rfl

theorem dispatch_route_refused {g : Gateway} {s : Option Principal} {c : Call} {r : Route}
    {f : Fault} (σ : Server) (hv : c.version = "2.0") (hm : (Text.trimBlanks c.method).isEmpty = false)
    (hres : c.method ∉ ["authenticate", "auth.login", "auth.whoami", "events.list"])
    (hg : g.route? c.method = some r) (hf : σ.callerFor s c = .error f) :
    (dispatch g s c).run σ = (({ outcome := .error (Answer.faultError f), id := c.id }, s), σ) := by
  have hok : (c.version != "2.0" || (Text.trimBlanks c.method).isEmpty) = false := by
    simp [hv, hm]
  simp only [dispatch, hok, Bool.false_eq_true, if_false]
  split
  · rename_i h; simp [h] at hres
  · rename_i h; simp [h] at hres
  · rename_i h; simp [h] at hres
  · rename_i h; simp [h] at hres
  · simp only [hg, ServerM.run_bind, callCaller_run, hf]
    rfl

/-- The principal a call binds to its session when answered on a server: the token's principal
for an `authenticate` whose token the server accepts, the user's for an `auth.login` whose
address and password the users entity accepts, and none for every other call. -/
def bound? (σ : Server) (c : Call) : Option Principal :=
  if c.version = "2.0" then
    if c.method = "authenticate" then
      match c.textParams ["token"] with
      | some [token] => σ.tokenPrincipal? token
      | _ => none
    else if c.method = "auth.login" then
      match σ.auth, c.textParams ["email", "password"] with
      | some a, some [email, password] =>
        ((a.login email password).run σ.deploy.storage).1.toOption.map Prod.snd
      | _, _ => none
    else none
  else none

def KeepsSession (s : Option Principal) (m : ServerM (Answer × Option Principal)) : Prop :=
  ∀ σ, (m.run σ).1.2 = s

theorem keepsSession_pure {s : Option Principal} (a : Answer) : KeepsSession s (pure (a, s)) :=
  fun _ => rfl

theorem KeepsSession.bind {α : Type} {s : Option Principal} {x : ServerM α}
    {f : α → ServerM (Answer × Option Principal)} (h : ∀ a, KeepsSession s (f a)) :
    KeepsSession s (x >>= f) :=
  fun _ => h _ _

theorem bound?_eq_none {σ : Server} {c : Call} (ha : c.method ≠ "authenticate")
    (hl : c.method ≠ "auth.login") : σ.bound? c = none := by
  simp [bound?, ha, hl]

theorem dispatch_session (g : Gateway) (s : Option Principal) (c : Call) (σ : Server) :
    ((dispatch g s c).run σ).1.2 = (σ.bound? c).or s := by
  unfold dispatch
  by_cases hv : c.version = "2.0"
  · by_cases hm : (Text.trimBlanks c.method).isEmpty
    · -- a blank method is neither of the two that bind
      have hnone : σ.bound? c = none := by
        apply bound?_eq_none <;> rintro h <;> rw [h] at hm <;> exact absurd hm (by decide)
      simp [hv, hm, hnone]
      rfl
    · simp only [hv, hm, bne_self_eq_false, Bool.false_or, Bool.false_eq_true, ↓reduceIte]
      split
      · rename_i hmeth
        simp only [bound?, hv, hmeth, ↓reduceIte]
        -- only a single text is read as the token
        rcases c.textParams ["token"] with _ | _ | ⟨token, _ | _⟩
        · rfl
        · rfl
        · simp only [ServerM.run_bind, authenticate_run]
          cases σ.tokenPrincipal? token <;> rfl
        · rfl
      · rename_i hmeth
        have hne : ("auth.login" = "authenticate") ↔ False := by decide
        simp only [bound?, hv, hmeth, hne, ↓reduceIte, ServerM.run_bind, ServerM.run_get]
        cases hA : σ.auth with
        | none => rfl
        | some a =>
          -- only a pair of texts is read as an address and a password
          rcases c.textParams ["email", "password"] with
            _ | _ | ⟨email, _ | ⟨password, _ | ⟨_, _⟩⟩⟩
          · rfl
          · rfl
          · rfl
          · simp only [ServerM.run_bind, store_run]
            rcases (ExceptT.run (a.login email password) σ.deploy.storage).1 with _ | ⟨token, p⟩ <;> rfl
          · rfl
      -- the remaining methods answer with the session they were given
      all_goals
        rw [bound?_eq_none (by simp_all) (by simp_all), Option.none_or]
      · exact (KeepsSession.bind fun r => by split <;> exact keepsSession_pure _) σ
      · rfl
      · split
        · rfl
        · refine (KeepsSession.bind fun r => ?_) σ
          split
          · exact keepsSession_pure _
          · split <;>
              exact KeepsSession.bind fun _ => KeepsSession.bind fun _ => by
                split <;> exact keepsSession_pure _
  · simp [hv, bound?]
    rfl

/-- The principal a message binds to its session: that of the call it holds, if any. -/
def boundBy? (σ : Server) (v : Value) : Option Principal :=
  (Call.ofValue? v).bind σ.bound?

def sessionAfter (s : Option Principal) (ms : List (Server × Value)) : Option Principal :=
  ms.foldl (fun s m => (m.1.boundBy? m.2).or s) s

/-- The session after messages is the principal the last binding message gave, or the session
before when none binds. -/
theorem sessionAfter_eq (s : Option Principal) (ms : List (Server × Value)) :
    sessionAfter s ms = ((ms.filterMap fun m => m.1.boundBy? m.2).getLast?).or s := by
  induction ms generalizing s with
  | nil => rfl
  | cons m ms ih =>
    rw [sessionAfter, List.foldl_cons, ← sessionAfter, ih, List.filterMap_cons]
    cases h : m.1.boundBy? m.2 with
    | none => rfl
    | some p =>
      cases hl : (ms.filterMap fun m => m.1.boundBy? m.2).getLast? with
      | none => simp [List.getLast?_eq_none_iff.1 hl]
      | some q => simp [List.getLast?_cons, hl]

end Server

namespace Connection

theorem gatewayOf_run (c : Connection) (σ : Server) :
    c.gatewayOf.run σ = (c.gateway.getD (Gateway.ofRoutes σ.served), σ) := by
  unfold gatewayOf
  cases c.gateway <;> rfl

theorem answer_connection (c : Connection) (v : Value) (σ : Server) :
    ((c.answer v).run σ).1.2 = { c with principal := (σ.boundBy? v).or c.principal } := by
  unfold answer Server.boundBy?
  cases h : Call.ofValue? v with
  | none => rfl
  | some call =>
    simp only [ServerM.run_bind, gatewayOf_run, ServerM.run_pure, Server.dispatch_session,
      Option.bind_some]

/-- A connection answers messages in turn, each on the server of its time, between changes that
keep its principal: reading the stream, filling the outbox, closing. -/
inductive Answers : Connection → List (Server × Value) → Connection → Prop where
  | done (c : Connection) : Answers c [] c
  | answer {c c' : Connection} {σ : Server} {v : Value} {ms : List (Server × Value)} :
      Answers ((c.answer v).run σ).1.2 ms c' → Answers c ((σ, v) :: ms) c'
  | frame {c c₁ c' : Connection} {ms : List (Server × Value)} :
      c₁.principal = c.principal → Answers c₁ ms c' → Answers c ms c'

namespace Answers

variable {c c₁ c' : Connection} {ms ms' : List (Server × Value)}

theorem principal_eq (h : Answers c ms c') : c'.principal = Server.sessionAfter c.principal ms := by
  induction h with
  | done c => rfl
  | answer _ ih => rw [ih, answer_connection]; rfl
  | frame hp _ ih => rw [ih, hp]

theorem append (h₁ : Answers c ms c₁) (h₂ : Answers c₁ ms' c') : Answers c (ms ++ ms') c' := by
  induction h₁ with
  | done => exact h₂
  | answer _ ih => exact .answer (ih h₂)
  | frame hp _ ih => exact .frame hp (ih h₂)

theorem of_principal_eq (h : c'.principal = c.principal) : Answers c [] c' :=
  .frame h (.done c')

end Answers

theorem drain_answers (fuel : Nat) (c : Connection) (σ : Server) :
    ∃ ms, Answers c ms ((drain fuel c).run σ).1 := by
  induction fuel generalizing c σ with
  | zero => exact ⟨[], .done c⟩
  | succ fuel ih =>
    simp only [drain]
    split
    · exact ⟨[], .of_principal_eq rfl⟩
    · split
      · exact ⟨[], .of_principal_eq rfl⟩
      · exact ⟨[], .of_principal_eq rfl⟩
      · rename_i v after _
        rw [ServerM.run_bind]
        rcases h : (c.answer v).run σ with ⟨⟨_ | a, c₁⟩, σ₁⟩
        · refine ⟨[(σ, v)], .answer ?_⟩
          rw [h]
          exact .of_principal_eq rfl
        · obtain ⟨ms, hms⟩ := ih { c₁ with pending := after, outbox := c₁.outbox ++ [a.toValue] } σ₁
          refine ⟨(σ, v) :: ms, .answer ?_⟩
          rw [h]
          dsimp only
          exact .frame (by rfl) hms

theorem send_answers (c : Connection) (text : String) (σ : Server) :
    ∃ ms, Answers c ms ((c.send text).run σ).1 ∧ (c.transport ≠ .socket →
      ms = if c.closed then [] else ((Json.parseWritten text).toOption.map (σ, ·)).toList) := by
  unfold send
  by_cases hc : c.closed
  · exact ⟨[], by simp [hc]; exact .done c, fun _ => by simp [hc]⟩
  · simp only [hc, Bool.false_eq_true, ↓reduceIte]
    cases ht : c.transport with
    | socket =>
      dsimp only
      exact ⟨_, .frame (by rfl) (drain_answers _ _ σ).choose_spec, fun h => absurd rfl h⟩
    | inProcess | websocket =>
      dsimp only
      cases hp : Json.parseWritten text with
      | error e =>
        exact ⟨[], .of_principal_eq rfl, fun _ => rfl⟩
      | ok v =>
        exact ⟨[(σ, v)], .answer (.of_principal_eq rfl), fun _ => rfl⟩

theorem send_keeps (c : Connection) (text : String) (σ : Server) (ht : c.transport ≠ .socket) :
    ((c.send text).run σ).1.transport = c.transport ∧ ((c.send text).run σ).1.closed = c.closed := by
  unfold send
  by_cases hc : c.closed
  · rw [if_pos hc]
    exact ⟨rfl, rfl⟩
  · rw [if_neg hc]
    cases htr : c.transport with
    | socket => exact absurd htr ht
    | inProcess | websocket =>
      cases Json.parseWritten text with
      | error e => exact ⟨htr, rfl⟩
      | ok v =>
        simp only [ServerM.run_bind, ServerM.run_pure, answer_connection]
        exact ⟨htr, trivial⟩

/-- Messages sent in turn on a connection, each on the server of its time, are answered as a
sequence of messages; off the unix socket, one for each text that holds a call. -/
theorem sends_answer (c : Connection) (sends : List (Server × String)) :
    ∃ ms, Answers c ms (sends.foldl (fun c m => ((c.send m.2).run m.1).1) c) ∧
      (c.transport ≠ .socket → c.closed = false →
        ms = sends.filterMap fun m => (Json.parseWritten m.2).toOption.map (m.1, ·)) := by
  induction sends generalizing c with
  | nil => exact ⟨[], .done c, fun _ _ => rfl⟩
  | cons m sends ih =>
    obtain ⟨ms₁, h₁, e₁⟩ := send_answers c m.2 m.1
    obtain ⟨ms₂, h₂, e₂⟩ := ih ((c.send m.2).run m.1).1
    refine ⟨ms₁ ++ ms₂, h₁.append h₂, fun ht hc => ?_⟩
    obtain ⟨ht', hc'⟩ := send_keeps c m.2 m.1 ht
    rw [e₁ ht, e₂ (ht' ▸ ht) (hc' ▸ hc), List.filterMap_cons, hc]
    cases (Json.parseWritten m.2).toOption <;> rfl

end Connection

/-- The realtime session is a state machine that only authentication moves. A websocket opens
with the principal of its handshake's token when the server authenticates, or anonymously. On
every connection, along every sequence of texts sent, each on the server of its time, the
principal is the one the last binding call gave, or the one the connection opened with: only an
`authenticate` whose token verifies and an `auth.login` that succeeds bind, and every other
message keeps the session. The caller of a call is its own token's principal when the server
authenticates and the call carries a token, unauthorized when that token does not verify, and
otherwise the session's; `auth.whoami` shows that caller and a route runs for it. -/
theorem session_moves_only_by_authentication :
    (∀ (σ : Server) (authorization queryToken : String),
      (Server.handshake authorization queryToken).run σ =
        (if (Server.handshakeToken authorization queryToken).isEmpty ∨ σ.auth = none then .ok none
         else (σ.tokenPrincipal? (Server.handshakeToken authorization queryToken)).elim
           (.error (.failure 401 "Unauthorized")) (.ok ∘ some), σ)) ∧
    (∀ (g : Gateway) (s : Option Principal) (c : Call) (σ : Server),
      ((Server.dispatch g s c).run σ).1.2 = (σ.bound? c).or s) ∧
    (∀ (tr : Transport) (g : Gateway) (p : Option Principal) (sends : List (Server × String)),
      let c := sends.foldl (fun c m => ((c.send m.2).run m.1).1) (Connection.opened tr g p)
      ∃ ms, (Connection.opened tr g p).Answers ms c ∧
        c.principal = ((ms.filterMap fun m => m.1.boundBy? m.2).getLast?).or p ∧
        (tr ≠ .socket →
          ms = sends.filterMap fun m => (Json.parseWritten m.2).toOption.map (m.1, ·))) ∧
    (∀ (s : Option Principal) (c : Call) (σ : Server),
      (Server.callCaller s c).run σ = (σ.callerFor s c, σ)) ∧
    (∀ (g : Gateway) (s : Option Principal) (c : Call) (σ : Server),
      c.version = "2.0" → c.method = "auth.whoami" →
      (Server.dispatch g s c).run σ =
        (({ outcome := (((σ.callerFor s c).bind fun q => q.elim (.error Fault.unauthorized) .ok).map
              Principal.toValue).mapError Answer.faultError, id := c.id }, s), σ)) ∧
    (∀ (g : Gateway) (s : Option Principal) (c : Call) (σ : Server) (r : Route),
      c.version = "2.0" → (Text.trimBlanks c.method).isEmpty = false →
      c.method ∉ ["authenticate", "auth.login", "auth.whoami", "events.list"] →
      g.route? c.method = some r →
      (∀ f, σ.callerFor s c = .error f →
        (Server.dispatch g s c).run σ =
          (({ outcome := .error (Answer.faultError f), id := c.id }, s), σ)) ∧
      (∀ p, σ.callerFor s c = .ok p →
        (Server.dispatch g s c).run σ =
          let out := r.runDecoded p (r.decodePayload c.params) σ.deploy.storage
          (({ outcome := out.1.mapError Answer.faultError, id := c.id }, s),
            σ.afterCall g.transport r.names.service out))) := by
  refine ⟨fun σ a q => Server.handshake_run a q σ, Server.dispatch_session,
    fun tr g p sends => ?_, fun s c σ => Server.callCaller_run σ s c,
    fun g s c σ => Server.dispatch_whoami σ,
    fun g s c σ r hv hm hres hg => ⟨fun f hf => Server.dispatch_route_refused σ hv hm hres hg hf,
      fun p hp => ?_⟩⟩
  · -- the run: the answered messages, and the principal they leave
    obtain ⟨ms, hms, hexact⟩ := Connection.sends_answer (Connection.opened tr g p) sends
    refine ⟨ms, hms, ?_, fun htr => hexact htr rfl⟩
    rw [hms.principal_eq, Server.sessionAfter_eq]
    rfl
  · rw [Server.dispatch_route hv hm hres hg (by rw [Server.callCaller_run, hp])]
    dsimp only
    generalize r.runDecoded p (r.decodePayload c.params) σ.deploy.storage = out
    obtain ⟨res, st⟩ := out
    cases res <;> rfl

/-- An anonymous caller asking who it is, on a server without authentication, is refused. -/
theorem anonymous_whoami_refused :
    let σ : Server := default
    let c : Call := { version := "2.0", method := "auth.whoami" }
    (c.version = "2.0" ∧ c.method = "auth.whoami") ∧
      (Server.dispatch {} none c).run σ =
        (({ outcome := .error (Answer.faultError Fault.unauthorized), id := .null }, none), σ) := by
  intro σ c
  refine ⟨⟨rfl, rfl⟩, ?_⟩
  rw [session_moves_only_by_authentication.2.2.2.2.1 {} none c σ rfl rfl]
  rfl

end CrudRoutes
