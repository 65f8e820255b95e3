import Naim.AuthSteps

/-!
# What a statement changes

The effect of one statement on each table, once for all statements: a row keeps
everything but the columns that some statement assigns, and a new row comes from
the one statement that inserts into its table.
-/

namespace Naim.Auth

open Checked Tables Rows List Except

variable {s s' : State} {st : Statement} {n : ℕ} {userId createdByUserId : Int32}
  {username passwordHash token role inviteToken expiresAt challengeId planeName : String}

lemma hasId_columnInt : hasId (columnInt n) n = true ↔ n < 2 ^ 31 := by
  unfold hasId columnInt
  rw [decide_eq_true_eq,Int32.toInt_ofNat',Int.bmod_def,show (Int32.size : ℤ) = 4294967296 from rfl]
  omega

lemma columnInt_of_hasId (h : hasId userId n = true) : columnInt n = userId := by
  have h : (n : ℤ) = userId.toInt := of_decide_eq_true h
  have hhigh := userId.toInt_lt
  apply Int32.toInt_inj.1
  unfold columnInt
  rw [Int32.toInt_ofNat',h,Int.bmod_def,show (Int32.size : ℤ) = 4294967296 from rfl]
  omega

variable {origin : Origin}

lemma addUser_eq_ok (h : s.addUser username role passwordHash = .ok s') :
    (∀ user ∈ s.users.rows, user.username ≠ username) ∧
      (role = "admin" → ∀ user ∈ s.users.rows, user.role ≠ "admin") ∧ s' = s.withUser username role passwordHash := by
  obtain ⟨hname,h⟩ := of_ite_fail h
  obtain ⟨hrole,h⟩ := of_ite_fail h
  refine ⟨?_,fun hadmin => ?_,(ok.inj h).symm⟩
  · simpa using hname
  · simpa [hadmin] using hrole

lemma createBootstrapAdmin_eq_ok (h : s.createBootstrapAdmin username passwordHash = .ok s') :
    s.loadUserCount = 0 ∧ (∀ user ∈ s.users.rows, user.role ≠ "admin") ∧
      s' = (s.withUser username "admin" passwordHash).record .bootstrapUser := by
  obtain ⟨hcount,h⟩ := of_ite_fail h
  obtain ⟨added,hadd,rfl⟩ := map_eq_ok.1 h
  obtain ⟨-,hadmin,rfl⟩ := addUser_eq_ok hadd
  exact ⟨by simpa using hcount,hadmin rfl,rfl⟩

lemma createInvitedUser_eq_ok (h : s.createInvitedUser inviteToken username passwordHash = .ok s') :
    ∃ invite ∈ s.registrationInvites.rows, invite.token = inviteToken ∧ s.usableInvite invite = true ∧
      s' = ((s.withUser username "user" passwordHash).withInviteUsed (columnInt invite.id)
        (columnInt (s.users.last + 1))).record (.invitedUser invite.id) := by
  unfold State.createInvitedUser at h
  split at h
  · exact absurd h fail_ne_ok
  next invite hfind =>
    obtain ⟨added,hadd,marked,hmark,h⟩ : ∃ added, s.addUser username "user" passwordHash = .ok added ∧ ∃ marked,
        added.markInviteUsed (columnInt invite.id) (columnInt added.users.last) = .ok marked ∧
          Except.ok (marked.record (.invitedUser invite.id)) = Except.ok s' := by
      simpa only [bind_eq_ok] using h
    obtain ⟨-,-,rfl⟩ := addUser_eq_ok hadd
    obtain rfl := ok.inj (of_ite_fail hmark).2
    obtain rfl := ok.inj h
    have hinvite := List.find?_some hfind
    rw [Bool.and_eq_true] at hinvite
    exact ⟨invite,mem_of_find?_eq_some hfind,by simpa using hinvite.1,hinvite.2,rfl⟩

lemma insertWebAuthnCredential_eq_ok (h : s.insertWebAuthnCredential credential = .ok s') :
    ∃ rows, s' = {s with webAuthnCredentials := rows} :=
  ⟨_,(ok.inj (of_ite_fail (of_ite_fail h).2).2).symm⟩

lemma createRegistrationInvite_eq_ok (h : s.createRegistrationInvite createdByUserId token expiresAt = .ok s') :
    s' = {s with registrationInvites :=
      s.registrationInvites.add (s.newInvite createdByUserId token expiresAt) fun _ => rfl} :=
  (ok.inj (of_ite_fail (of_ite_fail h).2).2).symm

def storedSession (s : State) (session : AuthSessionRecord) : AuthSessionRecord :=
  {session with createdAt := s.now.text, revokedAt := ""}

lemma insertAuthSession_eq_ok (h : s.insertAuthSession session origin = .ok s') :
    s.hasUser session.userId = true ∧ ∃ authSessions,
      s.authSessions.insert (storedSession s session) = some authSessions ∧
      s' = {s with authSessions}.record (.session origin session.token session.planeName) := by
  obtain ⟨huser,h⟩ := of_ite_fail h
  split at h
  · exact absurd h fail_ne_ok
  · next authSessions hinsert => exact ⟨by simpa using huser,authSessions,hinsert,(ok.inj h).symm⟩

def storedSecuredSession (s : State) (session : SecuredConnectionSessionRecord) : SecuredConnectionSessionRecord :=
  {session with createdAt := s.now.text, revokedAt := ""}

lemma insertSecuredConnectionSession_eq_ok (h : s.insertSecuredConnectionSession session origin = .ok s') :
    ∃ sessions, s.securedConnectionSessions.insert (storedSecuredSession s session) = some sessions ∧
      s' = {s with securedConnectionSessions := sessions}.record (.session origin session.token session.planeName) := by
  have h := (of_ite_fail h).2
  split at h
  · exact absurd h fail_ne_ok
  · next sessions hinsert => exact ⟨sessions,hinsert,(ok.inj h).symm⟩

lemma apply_cases (st : Statement) (s : State) : st.execute s = .ok (st.apply s) ∨ st.apply s = s := by
  unfold Statement.apply
  cases h : st.execute s with
  | ok s' => exact .inl rfl
  | error e => exact .inr rfl

lemma apply_induction {P : State → Prop} (hsame : P s) (hok : ∀ s', st.execute s = .ok s' → P s') :
    P (st.apply s) := by
  rcases apply_cases st s with h | h
  · exact hok _ h
  · exact h.symm ▸ hsame

inductive Table
  | users
  | webAuthnCredentials
  | registrationInvites
  | userSshKeys
  | authSessions
  | securedConnectionUsers
  | securedConnectionSessions
  | securedConnectionAuthLog
  | pendingWebAuthnFlows
  | pendingSshChallenges
  deriving DecidableEq

/-- The registration of an invited user is listed under the users; it also marks the invite. -/
def Statement.table : Statement → Table
  | createBootstrapAdmin .. | createInvitedUser .. | updateUserLastLoginAt .. => .users
  | insertWebAuthnCredential .. | updateWebAuthnCredentialCounter .. => .webAuthnCredentials
  | createRegistrationInvite .. | revokeRegistrationInvite .. => .registrationInvites
  | insertUserSshKey .. | revokeUserSshKey .. | touchUserSshKey .. => .userSshKeys
  | insertAuthSession .. | touchAuthSession .. => .authSessions
  | upsertSecuredConnectionUser .. | revokeSecuredConnectionUser .. | touchSecuredConnectionUser .. =>
    .securedConnectionUsers
  | insertSecuredConnectionSession .. | touchSecuredConnectionSession .. => .securedConnectionSessions
  | insertSecuredConnectionAuthLog .. => .securedConnectionAuthLog
  | savePendingWebAuthnFlow .. | erasePendingWebAuthnFlow .. => .pendingWebAuthnFlows
  | savePendingSshChallenge .. | erasePendingSshChallenge .. => .pendingSshChallenges

structure Frame (table : Table) (s s' : State) : Prop where
  now : s'.now = s.now
  planes : s'.planes = s.planes
  users : table ≠ .users → s'.users = s.users
  registrationInvites : table ≠ .users → table ≠ .registrationInvites → s'.registrationInvites = s.registrationInvites
  authSessions : table ≠ .authSessions → s'.authSessions = s.authSessions
  securedConnectionUsers : table ≠ .securedConnectionUsers → s'.securedConnectionUsers = s.securedConnectionUsers
  securedConnectionSessions : table ≠ .securedConnectionSessions →
    s'.securedConnectionSessions = s.securedConnectionSessions
  pendingWebAuthnFlows : table ≠ .pendingWebAuthnFlows → s'.pendingWebAuthnFlows = s.pendingWebAuthnFlows
  pendingSshChallenges : table ≠ .pendingSshChallenges → s'.pendingSshChallenges = s.pendingSshChallenges
  history : table ≠ .users → table ≠ .authSessions → table ≠ .securedConnectionSessions → s'.history = s.history

lemma Frame.refl (table : Table) (s : State) : Frame table s s := by constructor <;> intros <;> rfl

lemma execute_frame (h : st.execute s = .ok s') : Frame st.table s s' := by
  cases st with
  | createBootstrapAdmin username passwordHash =>
    obtain ⟨-,-,rfl⟩ := createBootstrapAdmin_eq_ok h
    constructor <;> intros <;> first | rfl | contradiction
  | createInvitedUser inviteToken username passwordHash =>
    obtain ⟨invite,-,-,-,rfl⟩ := createInvitedUser_eq_ok h
    constructor <;> intros <;> first | rfl | contradiction
  | insertWebAuthnCredential credential =>
    obtain ⟨rows,rfl⟩ := insertWebAuthnCredential_eq_ok h
    constructor <;> intros <;> rfl
  | createRegistrationInvite createdByUserId token expiresAt =>
    rw [createRegistrationInvite_eq_ok h]
    constructor <;> intros <;> first | rfl | contradiction
  | insertUserSshKey key =>
    rw [← ok.inj (of_ite_fail (of_ite_fail h).2).2]
    constructor <;> intros <;> rfl
  | insertAuthSession session origin =>
    obtain ⟨-,rows,-,rfl⟩ := insertAuthSession_eq_ok h
    constructor <;> intros <;> first | rfl | contradiction
  | upsertSecuredConnectionUser user =>
    have h := (of_ite_fail (of_ite_fail h).2).2
    split at h
    all_goals
      rw [← ok.inj h]
      constructor <;> intros <;> first | rfl | contradiction
  | insertSecuredConnectionSession session origin =>
    obtain ⟨rows,-,rfl⟩ := insertSecuredConnectionSession_eq_ok h
    constructor <;> intros <;> first | rfl | contradiction
  | _ =>
    rw [← ok.inj h]
    constructor <;> intros <;> first | rfl | contradiction

lemma apply_frame (st : Statement) (s : State) : Frame st.table s (st.apply s) :=
  apply_induction (Frame.refl _ s) fun _ => execute_frame

lemma users_evolve (st : Statement) (s : State) :
    Evolves (fun user user' => user'.id = user.id ∧ user'.role = user.role) (fun user' => user'.id = s.users.last + 1)
      s.users.rows (st.apply s).users.rows := by
  have hsame : ∀ user : UserRecord ℕ, user.id = user.id ∧ user.role = user.role := fun _ => ⟨rfl,rfl⟩
  refine apply_induction (P := fun s' => Evolves _ _ s.users.rows s'.users.rows) (.same hsame) fun s' hok => ?_
  by_cases htable : st.table = .users
  · cases st <;> simp only [Statement.table,reduceCtorEq] at htable
    · obtain ⟨-,-,rfl⟩ := createBootstrapAdmin_eq_ok hok
      exact .append hsame rfl
    · obtain ⟨invite,-,-,-,rfl⟩ := createInvitedUser_eq_ok hok
      exact .append hsame rfl
    · obtain rfl := ok.inj hok
      exact .updateWhere hsame fun _ => ⟨rfl,rfl⟩
  · rw [(execute_frame hok).users htable]
    exact .same hsame

lemma length_users (s : State) (hadmin : ∀ username passwordHash, st ≠ .createBootstrapAdmin username passwordHash)
    (hinvited : ∀ inviteToken username passwordHash, st ≠ .createInvitedUser inviteToken username passwordHash) :
    (st.apply s).users.rows.length = s.users.rows.length := by
  refine apply_induction (P := fun s' => s'.users.rows.length = s.users.rows.length) rfl fun s' hok => ?_
  by_cases htable : st.table = .users
  · cases st <;> simp only [Statement.table,reduceCtorEq] at htable
    · exact absurd rfl (hadmin _ _)
    · exact absurd rfl (hinvited _ _ _)
    · obtain rfl := ok.inj hok
      exact length_map _
  · rw [(execute_frame hok).users htable]

lemma hasUser_apply (h : s.hasUser userId = true) (st : Statement) : (st.apply s).hasUser userId = true := by
  obtain ⟨user,huser,hid⟩ := any_eq_true.1 h
  obtain ⟨user',huser',hsame,-⟩ := (users_evolve st s).kept _ huser
  exact any_eq_true.2 ⟨user',huser',hsame ▸ hid⟩

theorem kept_invite (h : invite ∈ s.registrationInvites.rows) (st : Statement) :
    ∃ invite' ∈ (st.apply s).registrationInvites.rows, invite'.id = invite.id ∧
      (invite.usedAt ≠ "" → invite'.usedAt ≠ "") := by
  refine apply_induction (P := fun s' => ∃ invite' ∈ s'.registrationInvites.rows, invite'.id = invite.id ∧
    (invite.usedAt ≠ "" → invite'.usedAt ≠ "")) ⟨invite,h,rfl,id⟩ fun s' hok => ?_
  cases st with
  | createInvitedUser inviteToken username passwordHash =>
    obtain ⟨used,-,-,-,rfl⟩ := createInvitedUser_eq_ok hok
    refine ⟨_,mem_updateWhere.2 ⟨invite,h,rfl⟩,?_⟩
    split
    · exact ⟨rfl,fun _ => Calendar.Instant.text_ne_empty _⟩
    · exact ⟨rfl,id⟩
  | createRegistrationInvite createdByUserId token expiresAt =>
    rw [createRegistrationInvite_eq_ok hok]
    exact ⟨invite,mem_append_left _ h,rfl,id⟩
  | revokeRegistrationInvite inviteId revokedAt =>
    obtain rfl := ok.inj hok
    refine ⟨_,mem_updateWhere.2 ⟨invite,h,rfl⟩,?_⟩
    split <;> exact ⟨rfl,id⟩
  | createBootstrapAdmin username passwordHash =>
    obtain ⟨-,-,rfl⟩ := createBootstrapAdmin_eq_ok hok
    exact ⟨invite,h,rfl,id⟩
  | updateUserLastLoginAt => exact ok.inj hok ▸ ⟨invite,h,rfl,id⟩
  | _ =>
    rw [(execute_frame hok).registrationInvites (by simp [Statement.table]) (by simp [Statement.table])]
    exact ⟨invite,h,rfl,id⟩

def Touches (row row' : AuthSessionRecord) : Prop := row' = {row with lastUsedAt := row'.lastUsedAt}

lemma sessions_evolve (st : Statement) (s : State) :
    Evolves Touches (fun row' => ∃ session origin, st = .insertAuthSession session origin ∧
      s.hasUser session.userId = true ∧ row' = storedSession s session) s.authSessions.rows
      (st.apply s).authSessions.rows := by
  have hsame : ∀ row, Touches row row := fun _ => rfl
  refine apply_induction (P := fun s' => Evolves _ _ s.authSessions.rows s'.authSessions.rows) (.same hsame)
    fun s' hok => ?_
  by_cases htable : st.table = .authSessions
  · cases st <;> simp only [Statement.table,reduceCtorEq] at htable
    · obtain ⟨huser,rows,hinsert,rfl⟩ := insertAuthSession_eq_ok hok
      change Evolves _ _ _ rows.rows
      rw [(Keyed.insert_eq_some hinsert).2]
      exact .append hsame ⟨_,_,rfl,huser,rfl⟩
    · obtain rfl := ok.inj hok
      exact .updateWhere hsame fun _ => rfl
  · rw [(execute_frame hok).authSessions htable]
    exact .same hsame

def TouchesSecured (row row' : SecuredConnectionSessionRecord) : Prop := row' = {row with lastUsedAt := row'.lastUsedAt}

lemma securedSessions_evolve (st : Statement) (s : State) :
    Evolves TouchesSecured (fun row' => ∃ session origin, st = .insertSecuredConnectionSession session origin ∧
      row' = storedSecuredSession s session) s.securedConnectionSessions.rows
      (st.apply s).securedConnectionSessions.rows := by
  have hsame : ∀ row, TouchesSecured row row := fun _ => rfl
  refine apply_induction (P := fun s' => Evolves _ _ s.securedConnectionSessions.rows s'.securedConnectionSessions.rows)
    (.same hsame) fun s' hok => ?_
  by_cases htable : st.table = .securedConnectionSessions
  · cases st <;> simp only [Statement.table,reduceCtorEq] at htable
    · obtain ⟨rows,hinsert,rfl⟩ := insertSecuredConnectionSession_eq_ok hok
      change Evolves _ _ _ rows.rows
      rw [(Keyed.insert_eq_some hinsert).2]
      exact .append hsame ⟨_,_,rfl,rfl⟩
    · obtain rfl := ok.inj hok
      exact .updateWhere hsame fun _ => rfl
  · rw [(execute_frame hok).securedConnectionSessions htable]
    exact .same hsame

lemma origin_challenge (h : (st.apply s).loadPendingSshChallenge challengeId = some challenge) :
    s.loadPendingSshChallenge challengeId = some challenge ∨ st = .savePendingSshChallenge challenge := by
  refine apply_induction (P := fun s' => s'.loadPendingSshChallenge challengeId = some challenge → _) .inl
    (fun s' hok h => ?_) h
  by_cases htable : st.table = .pendingSshChallenges
  · cases st <;> simp only [Statement.table,reduceCtorEq] at htable
    · obtain rfl := ok.inj hok
      change (Assoc.set s.pendingSshChallenges _ _).lookup challengeId = some challenge at h
      rw [Assoc.lookup_set] at h
      split at h
      · exact .inr (by rw [Option.some.inj h])
      · exact .inl h
    · obtain rfl := ok.inj hok
      change (Assoc.erase s.pendingSshChallenges _).lookup challengeId = some challenge at h
      rw [Assoc.lookup_erase] at h
      split at h
      · exact absurd h (by simp)
      · exact .inl h
  · unfold State.loadPendingSshChallenge at h
    rw [(execute_frame hok).pendingSshChallenges htable] at h
    exact .inl h

lemma origin_pending (h : entry ∈ (st.apply s).pendingSshChallenges) :
    entry ∈ s.pendingSshChallenges ∨ st = .savePendingSshChallenge entry.2 := by
  refine apply_induction (P := fun s' => entry ∈ s'.pendingSshChallenges → _) .inl (fun s' hok h => ?_) h
  by_cases htable : st.table = .pendingSshChallenges
  · cases st <;> simp only [Statement.table,reduceCtorEq] at htable
    · obtain rfl := ok.inj hok
      rcases Assoc.key_mem_set h with rfl | h
      · exact .inr rfl
      · exact .inl h
    · obtain rfl := ok.inj hok
      exact .inl (mem_of_mem_filter h)
  · rw [(execute_frame hok).pendingSshChallenges htable] at h
    exact .inl h

/-- The pending entry that the statement creates a session for. -/
def Statement.origin? : Statement → Option Origin
  | insertAuthSession _ origin => some origin
  | insertSecuredConnectionSession _ origin => some origin
  | _ => none

inductive Adds (st : Statement) (s s' : State) : List Entry → Prop
  | nothing (hlength : s'.users.rows.length = s.users.rows.length) : Adds st s s' []
  | session (origin : Origin) (token planeName : String) (horigin : st.origin? = some origin)
      (hlength : s'.users.rows.length = s.users.rows.length) : Adds st s s' [.session origin token planeName]
  | bootstrap (hbefore : ∀ user ∈ s.users.rows, user.role ≠ "admin")
      (hafter : ∃ user ∈ s'.users.rows, user.role = "admin")
      (hlength : s'.users.rows.length = s.users.rows.length + 1) : Adds st s s' [.bootstrapUser]
  | invited (invite : RegistrationInviteRecord ℕ) (hinvite : invite ∈ s.registrationInvites.rows)
      (husable : s.usableInvite invite = true)
      (hused : invite.id < 2 ^ 31 → ∃ invite' ∈ s'.registrationInvites.rows, invite'.id = invite.id ∧
        invite'.usedAt ≠ "")
      (hlength : s'.users.rows.length = s.users.rows.length + 1) : Adds st s s' [.invitedUser invite.id]

lemma adds_apply (st : Statement) (s : State) :
    ∃ entries, (st.apply s).history = s.history ++ entries ∧ Adds st s (st.apply s) entries := by
  rcases apply_cases st s with hok | hsame
  swap
  · rw [hsame]
    exact ⟨[],(append_nil _).symm,.nothing rfl⟩
  cases st with
  | createBootstrapAdmin username passwordHash =>
    obtain ⟨-,hbefore,heq⟩ := createBootstrapAdmin_eq_ok hok
    rw [heq]
    refine ⟨_,rfl,.bootstrap hbefore ⟨_,mem_append_right _ (mem_singleton.2 rfl),rfl⟩ ?_⟩
    exact length_append
  | createInvitedUser inviteToken username passwordHash =>
    obtain ⟨invite,hinvite,-,husable,heq⟩ := createInvitedUser_eq_ok hok
    rw [heq]
    -- the invite is marked as used if its id fits an `int`
    refine ⟨_,rfl,.invited invite hinvite husable (fun hid => ⟨_,mem_updateWhere.2 ⟨invite,hinvite,rfl⟩,?_⟩)
      length_append⟩
    rw [if_pos (hasId_columnInt.2 hid)]
    exact ⟨rfl,Calendar.Instant.text_ne_empty _⟩
  | insertAuthSession session origin =>
    obtain ⟨-,rows,-,heq⟩ := insertAuthSession_eq_ok hok
    rw [heq]
    exact ⟨_,rfl,.session _ _ _ rfl rfl⟩
  | insertSecuredConnectionSession session origin =>
    obtain ⟨rows,-,heq⟩ := insertSecuredConnectionSession_eq_ok hok
    rw [heq]
    exact ⟨_,rfl,.session _ _ _ rfl rfl⟩
  | updateUserLastLoginAt userId lastLoginAt =>
    exact ⟨[],(append_nil _).symm,.nothing (length_users s (fun _ _ => by simp) fun _ _ _ => by simp)⟩
  | touchAuthSession | touchSecuredConnectionSession => exact ⟨[],(append_nil _).symm,.nothing rfl⟩
  | _ =>
    refine ⟨[],?_,.nothing (length_users s (fun _ _ => by simp) fun _ _ _ => by simp)⟩
    rw [append_nil]
    exact (execute_frame hok).history (by simp [Statement.table]) (by simp [Statement.table])
      (by simp [Statement.table])

/-- An entry of the history on a session was there, or its session is inserted now. -/
theorem origin_entry (h : Entry.session origin token planeName ∈ (st.apply s).history) :
    Entry.session origin token planeName ∈ s.history ∨
      (∃ row ∈ (st.apply s).authSessions.rows, ∃ session, st = .insertAuthSession session origin ∧
        row = storedSession s session ∧ session.token = token ∧ session.planeName = planeName) ∨
      ∃ row ∈ (st.apply s).securedConnectionSessions.rows, ∃ session,
        st = .insertSecuredConnectionSession session origin ∧ row = storedSecuredSession s session ∧
          session.token = token ∧ session.planeName = planeName := by
  rcases apply_cases st s with hok | hsame
  swap
  · exact .inl (hsame ▸ h)
  obtain ⟨entries,hhistory,hadds⟩ := adds_apply st s
  rcases mem_append.1 (hhistory ▸ h) with hold | hnew
  · exact .inl hold
  cases hadds with
  | session origin' token' planeName' horigin =>
    cases st <;> simp only [Statement.origin?,reduceCtorEq] at horigin
    · obtain ⟨-,rows,hinsert,heq⟩ := insertAuthSession_eq_ok hok
      rw [heq] at h ⊢
      rcases mem_append.1 h with h | h
      · exact .inl h
      · obtain ⟨rfl,rfl,rfl⟩ := Entry.session.inj (mem_singleton.1 h)
        refine .inr (.inl ⟨storedSession s _,?_,_,rfl,rfl,rfl,rfl⟩)
        change _ ∈ rows.rows
        rw [(Keyed.insert_eq_some hinsert).2]
        exact mem_append_right _ (mem_singleton.2 rfl)
    · obtain ⟨rows,hinsert,heq⟩ := insertSecuredConnectionSession_eq_ok hok
      rw [heq] at h ⊢
      rcases mem_append.1 h with h | h
      · exact .inl h
      · obtain ⟨rfl,rfl,rfl⟩ := Entry.session.inj (mem_singleton.1 h)
        refine .inr (.inr ⟨storedSecuredSession s _,?_,_,rfl,rfl,rfl,rfl⟩)
        change _ ∈ rows.rows
        rw [(Keyed.insert_eq_some hinsert).2]
        exact mem_append_right _ (mem_singleton.2 rfl)
  | _ => simp at hnew

end Naim.Auth
