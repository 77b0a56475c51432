import Mathlib
import CrudRoutes.Route.Envelope

/-!
What decoding an envelope accepts. The checks of `Route.decode` are read as four partial
functions, one per part of the envelope: the id, the ids, the query and the body. A decoded
request is what the four parts yield; a refused envelope fails at the first part that does not,
with the query fault for the first three parts and the body fault for the last.

Consequences: the transports differ only in the faults they report, a part that a route does not
read does not matter, and what is decoded fits the route's shapes.
-/

namespace CrudRoutes

theorem RouteKind.beq_iff_eq {a b : RouteKind} : (a == b) = true ↔ a = b := by
  cases a <;> cases b <;> decide

/-! The batch body: the list a record binds from the members named `list`. -/

theorem mapM_option_eq_some_iff {α β : Type} {f : α → Option β} {xs : List α} {ys : List β} :
    xs.mapM f = some ys ↔ List.Forall₂ (fun x y => f x = some y) xs ys := by
  induction xs generalizing ys with
  | nil => cases ys <;> simp
  | cons x xs ih =>
    cases hx : f x <;> cases hxs : xs.mapM f <;> cases ys <;> simp [hx, hxs, ← ih]

theorem mapM_id_eq_some_iff {α : Type} {ys : List (Option α)} {l : List α} :
    ys.mapM id = some l ↔ ys = l.map some := by
  rw [mapM_option_eq_some_iff, ← List.forall₂_eq_eq_eq, List.forall₂_map_right_iff]
  rfl

theorem Bind.mapItem_none_eq_some {v : Value} {d : Fields} :
    Bind.mapItem none v = some (some d) ↔ ∃ o, v = .obj o ∧ d = Bind.mapOver [] o := by
  cases v <;> simp [Bind.mapItem, eq_comm]

theorem Bind.list_of_members_eq_singleton {α : Type} {zero : α} {item : α → Value → Option α}
    {fs : Fields} {name : String} {xs : List Value} (h : Bind.members fs name = [.arr xs]) :
    Bind.list zero item fs name = (xs.mapM (item zero)).map some := by
  -- no item is kept before the array, so each is bound over `zero` whatever its index
  have hfresh : ∀ n, (xs.zipIdx n).mapM (fun p => item zero p.1) = xs.mapM (item zero) := by
    intro n
    conv_rhs => rw [← List.zipIdx_map_fst n xs, List.mapM_map]
    rfl
  cases xs with
  | nil => simp [Bind.list, h, Bind.Slots.bind, Bind.Slots.items]
  | cons x xs =>
    have hlen : ∀ ys, (x :: xs).mapM (item zero) = some ys → ys.length = xs.length + 1 :=
      fun ys hys => (mapM_option_eq_some_iff.1 hys).length_eq.symm
    simp only [Bind.list, h, List.foldlM_cons, List.foldlM_nil, Bind.Slots.bind, List.getElem?_nil,
      Option.getD_none, List.drop_nil, List.append_nil, hfresh]
    cases hm : (x :: xs).mapM (item zero) with
    | none => rfl
    | some ys => simp [Bind.Slots.items, ← hlen ys hm]

theorem decodeList_eq_some_iff {body : BodyText} {l : List Fields} :
    decodeList body = some l ↔ ∃ fs, body = .value (.obj fs) ∧ l ≠ [] ∧
      Bind.list none Bind.mapItem fs "list" = some (some (l.map some)) := by
  rcases body with _ | v | _
  · simp [decodeList]
  · cases v with
    | obj fs =>
      simp only [decodeList, BodyText.value.injEq, Value.obj.injEq, exists_eq_left']
      -- the field is absent or cleared, empty, or a list whose items must all be maps
      rcases hb : Bind.list none Bind.mapItem fs "list" with _ | _ | _ | ⟨y, ys⟩
      · simp
      · simp
      · simp [eq_comm (a := ([] : List (Option Fields)))]
      · simp only [mapM_id_eq_some_iff, Option.some.injEq]
        constructor
        · rintro h
          exact ⟨by rintro rfl; simp at h, h⟩
        · exact fun h => h.2
    | _ => simp [decodeList]
  · simp [decodeList]

theorem decodeList_of_members_eq_singleton {fs : Fields} {xs : List Value} {l : List Fields}
    (h : Bind.members fs "list" = [.arr xs]) :
    decodeList (.value (.obj fs)) = some l ↔
      l ≠ [] ∧ List.Forall₂ (fun x d => ∃ o, x = .obj o ∧ d = Bind.mapOver [] o) xs l := by
  simp only [decodeList_eq_some_iff, BodyText.value.injEq, Value.obj.injEq, exists_eq_left',
    Bind.list_of_members_eq_singleton h, Option.map_eq_some_iff, Option.some.injEq,
    exists_eq_right, mapM_option_eq_some_iff, List.forall₂_map_right_iff,
    Bind.mapItem_none_eq_some]

theorem Bind.list_of_last_null {α : Type} {zero : α} {item : α → Value → Option α} {fs : Fields}
    {name : String} (ms : List Value) (h : Bind.members fs name = ms ++ [.null])
    (hms : (ms.foldlM (Bind.Slots.bind zero item) {}).isSome) :
    Bind.list zero item fs name = some none := by
  obtain ⟨s, hs⟩ := Option.isSome_iff_exists.1 hms
  rw [Bind.list, h, List.foldlM_append, hs]
  rfl

theorem decodeList_of_last_null {fs : Fields} (ms : List Value)
    (h : Bind.members fs "list" = ms ++ [.null])
    (hms : (ms.foldlM (Bind.Slots.bind none Bind.mapItem) {}).isSome) :
    decodeList (.value (.obj fs)) = none := by
  simp only [decodeList, Bind.list_of_last_null ms h hms]

namespace Route

def envelopeId? (V : List Field → Fields → List Shape.SchemaError) (r : Route) (id : String) :
    Option String :=
  if r.kind.targetsResource then
    let id := Text.trimBlanks id
    if fitsWith V r.validators r.shapes.param [(fieldId, if id.isEmpty then .null else .str id)] &&
      !id.isEmpty then some id else none
  else some ""

def envelopeIds? (r : Route) (ids : List String) : Option (List String) :=
  if r.kind.targetsIds then
    if !ids.isEmpty && !(ids.any fun i => (Text.trimBlanks i).isEmpty) then some ids else none
  else some []

def envelopeQuery? (V : List Field → Fields → List Shape.SchemaError) (r : Route)
    (query : Fields) : Option Filter :=
  if r.kind == .getMany then
    if fitsWith V r.validators r.shapes.query query then some ⟨query⟩ else none
  else some {}

def envelopeBody? (V : List Field → Fields → List Shape.SchemaError) (r : Route)
    (body : BodyText) : Option (Fields × List Fields) :=
  match r.kind with
  | .createMany => (decodeList body).bind fun list =>
      if list.all (fitsWith V r.validators r.shapes.body) then some ([], list) else none
  | .createOne | .updateOne | .updateMany | .replaceOne =>
    (decodeObject body false).bind fun d =>
      if fitsWith V r.validators r.shapes.body d then some (d, []) else none
  | .duplicateOne | .duplicateMany =>
    (decodeObject body true).bind fun d =>
      if fitsWith V r.validators r.shapes.body d then some (d, []) else none
  | _ => some ([], [])

variable {V : List Field → Fields → List Shape.SchemaError} {r : Route} {F : EnvelopeFaults}
  {id : String} {ids : List String} {query : Fields} {body : BodyText}

theorem decodeWith_eq :
    r.decodeWith V F id ids query body =
      match r.envelopeId? V id, r.envelopeIds? ids, r.envelopeQuery? V query with
      | some i, some is, some f =>
        match r.envelopeBody? V body with
        | some (b, l) => .ok { id := i, ids := is, query := f, body := b, list := l }
        | none => .error F.body
      | _, _, _ => .error F.query := by
  -- the kind fixes which checks run; each check is then a split on its condition
  cases hk : r.kind <;>
    simp +decide only [decodeWith, RouteKind.targetsResource, RouteKind.targetsIds, hk, ↓reduceIte,
      String.isEmpty_iff, Bool.not_eq_eq_eq_not, Bool.not_true, bind, Except.bind, throw, throwThe,
      MonadExceptOf.throw, Bool.false_eq_true, pure, Except.pure, envelopeId?, Bool.and_eq_true,
      String.isEmpty_eq_false_iff, ne_eq, envelopeIds?, envelopeQuery?, envelopeBody?,
      List.all_eq_false, Bool.not_eq_true, List.all_eq_true, List.isEmpty_iff, List.any_eq_true,
      List.isEmpty_eq_false_iff, List.any_eq_false] <;>
    (repeat' split) <;> grind

theorem decode_eq :
    r.decode F id ids query body =
      match r.envelopeId? Shape.validate id, r.envelopeIds? ids,
          r.envelopeQuery? Shape.validate query with
      | some i, some is, some f =>
        match r.envelopeBody? Shape.validate body with
        | some (b, l) => .ok { id := i, ids := is, query := f, body := b, list := l }
        | none => .error F.body
      | _, _, _ => .error F.query :=
  decodeWith_eq

theorem decode_one_fault (f : Fault) :
    r.decode ⟨f, f⟩ id ids query body = (r.decode F id ids query body).mapError fun _ => f := by
  rw [decode_eq, decode_eq]
  split
  · split <;> rfl
  · rfl

theorem decode_error {f : Fault} (h : r.decode F id ids query body = .error f) :
    f = F.body ∨ f = F.query := by
  rw [decode_eq] at h
  split at h
  · split at h
    · cases h
    · cases h; exact .inl rfl
  · cases h; exact .inr rfl

theorem decode_congr {ids' : List String} {query' : Fields}
    (hids : r.kind.targetsIds = true → ids = ids') (hquery : r.kind = .getMany → query = query') :
    r.decode F id ids query body = r.decode F id ids' query' body := by
  have hI : r.envelopeIds? ids = r.envelopeIds? ids' := by
    unfold envelopeIds?
    split
    · rw [hids ‹_›]
    · rfl
  have hQ : r.envelopeQuery? Shape.validate query = r.envelopeQuery? Shape.validate query' := by
    unfold envelopeQuery?
    split
    · rw [hquery (RouteKind.beq_iff_eq.1 ‹_›)]
    · rfl
  rw [decode_eq, decode_eq, hI, hQ]

theorem decodeWith_eq_ok {req : Request} (h : r.decodeWith V F id ids query body = .ok req) :
    r.envelopeId? V id = some req.id ∧ r.envelopeIds? ids = some req.ids ∧
      r.envelopeQuery? V query = some req.query ∧
      r.envelopeBody? V body = some (req.body, req.list) := by
  rw [decodeWith_eq] at h
  split at h
  · split at h
    · cases h; simp_all
    · cases h
  · cases h

/-! What a route takes from each part of an envelope, said without the decoder. -/

/-- The id a route takes: for a route on one document, the id trimmed, not empty and fitting the
parameter shape; other routes take none. -/
def IdAccepted (r : Route) (id i : String) : Prop :=
  if r.kind.targetsResource then
    i = Text.trimBlanks id ∧ i ≠ "" ∧ fits r.validators r.shapes.param [(fieldId, .str i)] = true
  else i = ""

/-- The ids a route takes: for a route on several documents, the ids as given, at least one and
none blank; other routes take none. -/
def IdsAccepted (r : Route) (ids is : List String) : Prop :=
  if r.kind.targetsIds then is = ids ∧ ids ≠ [] ∧ ∀ i ∈ ids, Text.trimBlanks i ≠ "" else is = []

/-- The filter a route takes: for `GetMany`, the query, which must fit the query shape; other
routes take none. -/
def QueryAccepted (r : Route) (query : Fields) (q : Filter) : Prop :=
  if r.kind = .getMany then q = ⟨query⟩ ∧ fits r.validators r.shapes.query query = true else q = {}

/-- The body a route takes. `CreateMany` takes an object whose `list` field, bound from every
member named `list` without regard to case as a record binds a list of maps, is a list of maps,
not empty and each fitting the body shape. The routes that write one document take an object,
read as a map and fitting the body shape; the duplicating routes also take no body or `null`,
read as the empty map. Other routes take no body. -/
def BodyAccepted (r : Route) (body : BodyText) (b : Fields) (l : List Fields) : Prop :=
  match r.kind with
  | .createMany =>
    b = [] ∧ (∃ fs, body = .value (.obj fs) ∧ l ≠ [] ∧
      Bind.list none Bind.mapItem fs "list" = some (some (l.map some))) ∧
      ∀ d ∈ l, fits r.validators r.shapes.body d = true
  | .createOne | .updateOne | .updateMany | .replaceOne =>
    l = [] ∧ (∃ fs, body = .value (.obj fs) ∧ b = Bind.mapOver [] fs) ∧
      fits r.validators r.shapes.body b = true
  | .duplicateOne | .duplicateMany =>
    l = [] ∧ ((body = .absent ∨ body = .value .null) ∧ b = [] ∨
      ∃ fs, body = .value (.obj fs) ∧ b = Bind.mapOver [] fs) ∧
      fits r.validators r.shapes.body b = true
  | _ => b = [] ∧ l = []

theorem envelopeId?_eq_some_iff {i : String} :
    r.envelopeId? Shape.validate id = some i ↔ r.IdAccepted id i := by
  unfold envelopeId? IdAccepted fits
  split
  · rw [Option.ite_none_right_eq_some, Option.some.injEq, Bool.and_eq_true,
      Bool.not_eq_true', String.isEmpty_eq_false_iff]
    constructor
    · rintro ⟨⟨hfit, hne⟩, rfl⟩
      simp_all
    · rintro ⟨rfl, hne, hfit⟩
      simp_all
  · exact ⟨fun h => (Option.some.inj h).symm, fun h => h ▸ rfl⟩

theorem envelopeIds?_eq_some_iff {is : List String} :
    r.envelopeIds? ids = some is ↔ r.IdsAccepted ids is := by
  unfold envelopeIds? IdsAccepted
  split
  · rw [Option.ite_none_right_eq_some, Option.some.injEq]
    simp only [Bool.and_eq_true, Bool.not_eq_true', List.isEmpty_eq_false_iff, List.any_eq_false,
      String.isEmpty_iff, ne_eq]
    exact ⟨fun ⟨⟨hne, hb⟩, he⟩ => ⟨he.symm, hne, by simpa using hb⟩,
      fun ⟨he, hne, hb⟩ => ⟨⟨hne, by simpa using hb⟩, he.symm⟩⟩
  · exact ⟨fun h => (Option.some.inj h).symm, fun h => h ▸ rfl⟩

theorem envelopeQuery?_eq_some_iff {q : Filter} :
    r.envelopeQuery? Shape.validate query = some q ↔ r.QueryAccepted query q := by
  unfold envelopeQuery? QueryAccepted fits
  by_cases hk : r.kind = .getMany
  · have hb : (r.kind == .getMany) = true := RouteKind.beq_iff_eq.2 hk
    rw [if_pos hb, if_pos hk, Option.ite_none_right_eq_some, Option.some.injEq]
    exact ⟨fun ⟨hfit, he⟩ => ⟨he.symm, hfit⟩, fun ⟨he, hfit⟩ => ⟨hfit, he.symm⟩⟩
  · have hb : (r.kind == .getMany) = false := Bool.eq_false_iff.2 fun h => hk (RouteKind.beq_iff_eq.1 h)
    rw [if_neg (by simp [hb]), if_neg hk, Option.some.injEq]
    exact eq_comm

theorem envelopeBody?_eq_some_iff {b : Fields} {l : List Fields} :
    r.envelopeBody? Shape.validate body = some (b, l) ↔ r.BodyAccepted body b l := by
  -- for each kind, the body is read by one decoder and then checked
  have hobj : ∀ {optional : Bool} {d : Fields}, decodeObject body optional = some d ↔
      (optional = true ∧ (body = .absent ∨ body = .value .null) ∧ d = []) ∨
        ∃ fs, body = .value (.obj fs) ∧ d = Bind.mapOver [] fs := by
    intro optional d
    unfold decodeObject
    split <;> cases optional <;> simp_all [eq_comm]
  unfold envelopeBody? BodyAccepted fits
  split <;> simp only [Option.bind_eq_some_iff, Option.ite_none_right_eq_some, Option.some.injEq,
    Prod.mk.injEq, hobj, decodeList_eq_some_iff] <;> grind

/-- Decoding takes exactly the envelopes whose parts the route takes, and makes the request of
what it takes: the trimmed id, the ids, the query and the body or the list of bodies. It refuses
every other envelope with the query fault when the id, the ids or the query is not taken, and
with the body fault otherwise; over HTTP and over the realtime transport both faults are invalid
envelopes. -/
theorem decode_accepts_exactly :
    (∀ req, r.decode F id ids query body = .ok req ↔
      r.IdAccepted id req.id ∧ r.IdsAccepted ids req.ids ∧ r.QueryAccepted query req.query ∧
        r.BodyAccepted body req.body req.list) ∧
    (∀ f, r.decode F id ids query body = .error f ↔
      (¬ ((∃ i, r.IdAccepted id i) ∧ (∃ is, r.IdsAccepted ids is) ∧ (∃ q, r.QueryAccepted query q)) ∧
          f = F.query) ∨
        ((∃ i, r.IdAccepted id i) ∧ (∃ is, r.IdsAccepted ids is) ∧ (∃ q, r.QueryAccepted query q)) ∧
          (∀ b l, ¬ r.BodyAccepted body b l) ∧ f = F.body) ∧
    (httpFaults.query = .client .invalidEnvelope "Invalid query" ∧
      httpFaults.body = .client .invalidEnvelope "Invalid request body" ∧
      payloadFaults.query = .client .invalidEnvelope "Invalid payload" ∧
      payloadFaults.body = .client .invalidEnvelope "Invalid payload") := by
  simp only [← envelopeId?_eq_some_iff, ← envelopeIds?_eq_some_iff, ← envelopeQuery?_eq_some_iff,
    ← envelopeBody?_eq_some_iff, ← Option.isSome_iff_exists]
  refine ⟨fun req => ?_, fun f => ?_, ⟨rfl, rfl, rfl, rfl⟩⟩
  · constructor
    · exact decodeWith_eq_ok
    · rintro ⟨hi, his, hq, hb⟩
      rw [decode_eq, hi, his, hq]
      simp only [hb]
  · rw [decode_eq]
    -- the three leading parts decide between the two faults, the body between success and fault
    rcases hi : r.envelopeId? Shape.validate id with _ | i <;>
      rcases his : r.envelopeIds? ids with _ | is <;>
      rcases hq : r.envelopeQuery? Shape.validate query with _ | q <;>
      rcases hb : r.envelopeBody? Shape.validate body with _ | ⟨b, l⟩ <;> simp_all <;> exact eq_comm

end Route

/-- A batch body's `list` is found without regard to case: a `CreateMany` route takes a body
with no member named `list` but one named `List`, and refuses one whose `list` is an array of
objects when a later `List` clears it. -/
theorem batch_list_member_found_without_case :
    let r : Route := { (default : Route) with kind := .createMany }
    let named : Fields := [("List", .arr [.obj []])]
    let cleared : Fields := [("list", .arr [.obj []]), ("List", .null)]
    (Fields.get? named "list" = none ∧
      r.decode httpFaults "" [] [] (.value (.obj named)) = .ok { list := [[]] }) ∧
    (Fields.get? cleared "list" = some (.arr [.obj []]) ∧
      r.decode httpFaults "" [] [] (.value (.obj cleared)) = .error httpFaults.body) := by
  intro r named cleared
  have hfold : Text.foldName "List" = Text.foldName "list" := by
    rw [← String.toList_inj, Text.foldName, Text.foldName, String.toList_map, String.toList_map]
    decide
  have hnamed : Bind.members named "list" = [.arr [.obj []]] := by
    simp [named, Bind.members, hfold]
  have hcleared : Bind.members cleared "list" = [.arr [.obj []], .null] := by
    simp [cleared, Bind.members, hfold]
  have hl : decodeList (.value (.obj named)) = some [[]] :=
    (decodeList_of_members_eq_singleton hnamed).2 ⟨by simp, by simp [Bind.mapOver]⟩
  have hc : decodeList (.value (.obj cleared)) = none :=
    decodeList_of_last_null [.arr [.obj []]] hcleared rfl
  have hshapes : (default : Route).shapes = {} := rfl
  -- a batch route takes no id, no ids and no query, so the body alone decides
  have hid : r.envelopeId? Shape.validate "" = some "" := rfl
  have hids : r.envelopeIds? [] = some [] := rfl
  have hquery : r.envelopeQuery? Shape.validate [] = some {} := rfl
  have hbody : r.envelopeBody? Shape.validate (.value (.obj named)) = some ([], [[]]) := by
    simp [Route.envelopeBody?, r, hl, fitsWith, hshapes]
  have hbody' : r.envelopeBody? Shape.validate (.value (.obj cleared)) = none := by
    simp only [Route.envelopeBody?, r, hc, Option.bind_none]
  refine ⟨⟨rfl, ?_⟩, ⟨rfl, ?_⟩⟩
  · rw [Route.decode_eq, hid, hids, hquery, hbody]
  · rw [Route.decode_eq, hid, hids, hquery, hbody']

end CrudRoutes
