import SoftBus.AuthSession

/-!
# The auth managers of both sides

`auth_manager.c` has a list of auth managers for the connections that this device opened and one for those it
accepted. A manager is found by the address of the peer: the first one of a list that compares equal.
-/

namespace SoftBus

def authInvalidId : BitVec 64 := -1

def maxAuthValidPeriod : BitVec 64 := 1800000

structure AuthManagerItem (Key : Type) extends AuthManager Key where
  authId : BitVec 64
  connId : BitVec 64
  lastVerifyTime : BitVec 64
  lastActiveTime : BitVec 64
  hasAuthPassed : Bool
deriving DecidableEq

section
variable {Key : Type}

def isItemOf (connInfo : AuthConnInfo) (auth : AuthManagerItem Key) : Bool := isManagerOf connInfo auth.toAuthManager

/-! ## Storing and finding a session key -/

/-- What a call of `AuthManagerSetSessionKey` is given besides the session, and whether its allocations succeed. -/
structure SetKeyEnv where
  isConnect : Bool
  connId : BitVec 64
  now : BitVec 64
  newMem : Bool
  addMem : Bool

def newAuthManager (authSeq : BitVec 64) (info : AuthSessionInfo) (env : SetKeyEnv) : AuthManagerItem Key :=
  ⟨⟨info.connInfo, info.udid, []⟩, authSeq, env.connId, env.now, env.now, false⟩

def authManagerIsExist (env : SetKeyEnv) (auth : AuthManagerItem Key) : AuthManagerItem Key :=
  { auth with
    hasAuthPassed := auth.hasAuthPassed && !(auth.connId ≠ env.connId && auth.connInfo.type = .wifi)
    connId := env.connId
    lastVerifyTime := env.now
    lastActiveTime := env.now }

def storeSessionKey (authSeq : BitVec 64) (info : AuthSessionInfo) (key : Key) (env : SetKeyEnv)
    (auth : AuthManagerItem Key) : AuthManagerItem Key :=
  { auth with
    sessionKeyList := addSessionKey auth.sessionKeyList (sessionKeyIndex authSeq info) key
    hasAuthPassed := auth.hasAuthPassed || !env.isConnect }

/-- `AuthManagerSetSessionKey` on the list of the session's side: whether it returns `SOFTBUS_OK`, and the list. -/
def setSessionKey (authSeq : BitVec 64) (info : AuthSessionInfo) (key : Key) (env : SetKeyEnv)
    (list : List (AuthManagerItem Key)) : Bool × List (AuthManagerItem Key) :=
  if !env.isConnect && info.connInfo.type ≠ .ble then (true, list)
  else match list.find? (isItemOf info.connInfo) with
    | none =>
      if env.newMem && env.addMem then
        (true, list ++ [storeSessionKey authSeq info key env (newAuthManager authSeq info env)])
      else (false, list)
    | some _ => (env.addMem, FirstMatch.modify (isItemOf info.connInfo) (fun auth =>
        if env.addMem then storeSessionKey authSeq info key env (authManagerIsExist env auth)
        else authManagerIsExist env auth) list)

def sessionKeysOf (connInfo : AuthConnInfo) (list : List (AuthManagerItem Key)) : Option (SessionKeyList Key) :=
  (list.find? (isItemOf connInfo)).map (·.sessionKeyList)

def authManagerGetSessionKey (authSeq : BitVec 64) (info : AuthSessionInfo) (list : List (AuthManagerItem Key)) :
    Option Key :=
  (sessionKeysOf info.connInfo list).bind (getSessionKeyByIndex · (toInt32 authSeq))

/-- The key is put into the list, and not only reported as stored. -/
def SetKeyEnv.stores (env : SetKeyEnv) (info : AuthSessionInfo) : Bool := env.isConnect || info.connInfo.type = .ble

/-- The older keys that are left. -/
def olderKeys (list : SessionKeyList Key) : SessionKeyList Key :=
  if list.length < sessionKeyMaxNum then list else list.tail

section
variable {authSeq : BitVec 64} {info : AuthSessionInfo} {key : Key} {env : SetKeyEnv} {list : List (AuthManagerItem Key)}

theorem addSessionKey_eq (keys : SessionKeyList Key) (index : BitVec 32) (key : Key) :
    addSessionKey keys index key = olderKeys keys ++ [⟨index, key⟩] := by
  unfold addSessionKey removeOldKey olderKeys
  rw [List.length_append, List.length_singleton]
  by_cases hlen : keys.length < sessionKeyMaxNum
  · rw [if_pos (Nat.succ_le_of_lt hlen), if_pos hlen]
  · rw [if_neg (mt Nat.lt_of_succ_le hlen), if_neg hlen, List.tail_append_of_ne_nil]
    rintro rfl
    exact hlen (Nat.zero_lt_succ _)

theorem getSessionKeyByIndex_addSessionKey (keys : SessionKeyList Key) (index i : BitVec 32) (key : Key) :
    getSessionKeyByIndex (addSessionKey keys index key) i =
      match (olderKeys keys).find? (·.index = i) with
      | some item => some item.key
      | none => if index = i then some key else none := by
  rw [getSessionKeyByIndex, addSessionKey_eq, List.find?_append]
  cases (olderKeys keys).find? (·.index = i) with
  | some item => rfl
  | none =>
    rw [Option.none_or, List.find?_singleton]
    by_cases hi : index = i <;> simp [hi]

theorem stored_of_stores (h : env.stores info = true) : ¬(!env.isConnect && decide (info.connInfo.type ≠ .ble)) = true := by
  simpa [SetKeyEnv.stores, Classical.or_iff_not_imp_left] using h

theorem sessionKeysOf_set (h : (setSessionKey authSeq info key env list).1 = true) (hstores : env.stores info = true) :
    sessionKeysOf info.connInfo (setSessionKey authSeq info key env list).2 =
      some (addSessionKey ((sessionKeysOf info.connInfo list).getD []) (sessionKeyIndex authSeq info) key) := by
  unfold setSessionKey sessionKeysOf at *
  rw [if_neg (stored_of_stores hstores)] at h ⊢
  cases hfind : list.find? (isItemOf info.connInfo) with
  | none =>
    rw [hfind] at h
    dsimp only at h ⊢
    split at h
    · rw [if_pos ‹_›, List.find?_append, hfind, Option.none_or, List.find?_singleton, if_pos]
      · rfl
      · exact compareConnInfo_self _ _
    · cases h
  | some auth =>
    rw [hfind] at h
    dsimp only at h ⊢
    rw [FirstMatch.find?_modify, hfind, h]
    · rfl
    · intro auth hauth
      split <;> exact hauth

theorem setSessionKey_eq (env : SetKeyEnv) (hstores : env.stores info = true) (hnew : env.newMem = true)
    (hadd : env.addMem = true) :
    (setSessionKey authSeq info key env list).2 = FirstMatch.alter (isItemOf info.connInfo) (fun auth? =>
      some (auth?.elim (storeSessionKey authSeq info key env (newAuthManager authSeq info env)) fun auth =>
        storeSessionKey authSeq info key env (authManagerIsExist env auth))) list := by
  rw [FirstMatch.alter_elim, setSessionKey, if_neg (stored_of_stores hstores), hnew, hadd]
  cases list.find? (isItemOf info.connInfo) <;> rfl

/-- The key is found as long as the list of keys stays as it is, if and only if it is stored under the index of
the session, and no older key that is left has that index. -/
theorem session_key_retrievable_iff (list : List (AuthManagerItem Key)) (authSeq : BitVec 64) (info : AuthSessionInfo)
    (key : Key) (env : SetKeyEnv) (h : (setSessionKey authSeq info key env list).1 = true) :
    (∀ list', sessionKeysOf info.connInfo list' =
        sessionKeysOf info.connInfo (setSessionKey authSeq info key env list).2 →
      authManagerGetSessionKey authSeq info list' = some key) ↔
    if env.stores info = true then
      match (olderKeys ((sessionKeysOf info.connInfo list).getD [])).find? (·.index = toInt32 authSeq) with
      | some item => item.key = key
      | none => sessionKeyIndex authSeq info = toInt32 authSeq
    else authManagerGetSessionKey authSeq info list = some key := by
  have hget : (∀ list', sessionKeysOf info.connInfo list' =
        sessionKeysOf info.connInfo (setSessionKey authSeq info key env list).2 →
      authManagerGetSessionKey authSeq info list' = some key) ↔
      authManagerGetSessionKey authSeq info (setSessionKey authSeq info key env list).2 = some key := by
    refine ⟨fun h => h _ rfl, fun h list' hlist' => ?_⟩
    rw [authManagerGetSessionKey, hlist']
    exact h
  rw [hget]
  split
  · rename_i hstores
    rw [authManagerGetSessionKey, sessionKeysOf_set h hstores, Option.bind_some, getSessionKeyByIndex_addSessionKey]
    cases (olderKeys ((sessionKeysOf info.connInfo list).getD [])).find? (·.index = toInt32 authSeq) with
    | some item => exact Option.some_inj
    | none => by_cases hindex : sessionKeyIndex authSeq info = toInt32 authSeq <;> simp [hindex]
  · rename_i hstores
    have hskip : (!env.isConnect && decide (info.connInfo.type ≠ .ble)) = true := by
      simpa [SetKeyEnv.stores] using hstores
    rw [setSessionKey, if_pos hskip]

end

def wifiInfo (oldIndex : Option (BitVec 64)) : AuthSessionInfo :=
  { isServer := false, connInfo := .wifi [49] 0, isSupportFastAuth := oldIndex.isSome, version := softbusOldV2,
    oldIndex := oldIndex.getD 0 }

def connectEnv : SetKeyEnv := ⟨true, 1, 10, true, true⟩

/-- The manager of the peer has a key already. -/
theorem session_key_found :
    let list : List (AuthManagerItem Nat) := [⟨⟨.wifi [49] 80, [], [⟨3, 4⟩]⟩, 3, 1, 5, 5, true⟩]
    (setSessionKey 7 (wifiInfo none) 5 connectEnv list).1 = true ∧
      authManagerGetSessionKey 7 (wifiInfo none) (setSessionKey 7 (wifiInfo none) 5 connectEnv list).2 = some 5 :=
  ⟨rfl, (session_key_retrievable_iff [⟨⟨.wifi [49] 80, [], [⟨3, 4⟩]⟩, 3, 1, 5, 5, true⟩] 7 (wifiInfo none) 5 connectEnv
    rfl).mpr rfl _ rfl⟩

/-- With fast auth and an old peer the key is stored under the old index. -/
theorem fast_auth_key_not_found :
    (setSessionKey 7 (wifiInfo (some 9)) () connectEnv []).1 = true ∧
      authManagerGetSessionKey 7 (wifiInfo (some 9)) (setSessionKey 7 (wifiInfo (some 9)) () connectEnv []).2 = none := by
  decide

/-! ## Choosing a manager -/

structure AuthManagerLists (Key : Type) where
  clients : List (AuthManagerItem Key)
  servers : List (AuthManagerItem Key)

namespace AuthManagerLists

variable (lists : AuthManagerLists Key) (connInfo : AuthConnInfo) (now : BitVec 64)

def findAuthManagerByConnInfo (isServer : Bool) : Option (AuthManagerItem Key) :=
  (if isServer then lists.servers else lists.clients).find? (isItemOf connInfo)

def isActive (auth : AuthManagerItem Key) : Bool := !(maxAuthValidPeriod ≤ now - auth.lastActiveTime)

def found : List (Option (AuthManagerItem Key)) :=
  [lists.findAuthManagerByConnInfo connInfo false, lists.findAuthManagerByConnInfo connInfo true]

def getLatestIdByConnInfo : BitVec 64 :=
  ((lists.found connInfo).foldl (fun (latest : BitVec 64 × BitVec 64) auth? => match auth? with
    | none => latest
    | some auth =>
      if latest.2 < auth.lastVerifyTime && auth.hasAuthPassed then (auth.authId, auth.lastVerifyTime) else latest)
    (authInvalidId, 0)).1

/-- `maxVerifyTime` stays 0. -/
def getActiveAuthIdByConnInfo : BitVec 64 :=
  ((lists.found connInfo).map (·.filter (isActive now))).foldl (fun authId auth? => match auth? with
    | none => authId
    | some auth => if 0 < auth.lastVerifyTime then auth.authId else authId) authInvalidId

/-- The managers a query may answer with. -/
def candidates (valid : AuthManagerItem Key → Bool) : List (AuthManagerItem Key) :=
  (lists.clients ++ lists.servers).filter fun auth => isItemOf connInfo auth && (auth.hasAuthPassed && valid auth)

end AuthManagerLists

def IsLatest (auths : List (AuthManagerItem Key)) (auth : AuthManagerItem Key) : Prop :=
  auth ∈ auths ∧ ∀ auth' ∈ auths, auth'.lastVerifyTime ≤ auth.lastVerifyTime

/-- The answer to a query: the invalid id if there is no candidate, and else the id of a latest one. -/
def Selects (auths : List (AuthManagerItem Key)) (authId : BitVec 64) : Prop :=
  (authId = authInvalidId ↔ auths = []) ∧ (auths ≠ [] → ∃ auth, IsLatest auths auth ∧ auth.authId = authId)

theorem selects_of_isLatest {auths : List (AuthManagerItem Key)} {auth : AuthManagerItem Key} (h : IsLatest auths auth)
    (hid : auth.authId ≠ authInvalidId) : Selects auths auth.authId :=
  ⟨iff_of_false hid (List.ne_nil_of_mem h.1), fun _ => ⟨auth, h, rfl⟩⟩

theorem IsLatest.append_left {auths others : List (AuthManagerItem Key)} {auth : AuthManagerItem Key}
    (h : IsLatest auths auth) (hle : ∀ other ∈ others, other.lastVerifyTime ≤ auth.lastVerifyTime) :
    IsLatest (auths ++ others) auth :=
  ⟨List.mem_append_left _ h.1, fun other ho => (List.mem_append.mp ho).elim (h.2 other) (hle other)⟩

theorem IsLatest.append_right {auths others : List (AuthManagerItem Key)} {auth : AuthManagerItem Key}
    (h : IsLatest auths auth) (hle : ∀ other ∈ others, other.lastVerifyTime ≤ auth.lastVerifyTime) :
    IsLatest (others ++ auths) auth :=
  ⟨List.mem_append_right _ h.1, fun other ho => (List.mem_append.mp ho).elim (hle other) (h.2 other)⟩

namespace AuthManagerLists

variable (lists : AuthManagerLists Key) (connInfo : AuthConnInfo) (now : BitVec 64)

/-- A query that looks at the `usable` managers can do with the first match of each list. -/
structure Orderly (usable : AuthManagerItem Key → Bool) : Prop where
  first : ∀ auths ∈ [lists.clients, lists.servers], (auths.filter (isItemOf connInfo)).Pairwise fun first later =>
    usable later = true → usable first = true ∧ later.lastVerifyTime ≤ first.lastVerifyTime
  verified : ∀ auth ∈ lists.clients ++ lists.servers, isItemOf connInfo auth = true → usable auth = true →
    auth.hasAuthPassed = true ∧ 0 < auth.lastVerifyTime ∧ auth.authId ≠ authInvalidId

/-- No client was verified after a server. -/
def ServersLater : Prop :=
  ∀ client ∈ lists.clients.filter (isItemOf connInfo), ∀ server ∈ lists.servers.filter (isItemOf connInfo),
    isActive now client = true → isActive now server = true → client.lastVerifyTime ≤ server.lastVerifyTime

def matching (usable : AuthManagerItem Key → Bool) (auths : List (AuthManagerItem Key)) : List (AuthManagerItem Key) :=
  (auths.filter (isItemOf connInfo)).filter usable

variable {lists connInfo} {usable : AuthManagerItem Key → Bool} {auths : List (AuthManagerItem Key)}

theorem Orderly.find? (h : Orderly lists connInfo usable) (hauths : auths ∈ [lists.clients, lists.servers]) :
    ((auths.find? (isItemOf connInfo)).filter usable = none ∧ matching connInfo usable auths = []) ∨
      ∃ auth, (auths.find? (isItemOf connInfo)).filter usable = some auth ∧
        IsLatest (matching connInfo usable auths) auth := by
  have hfirst := h.first auths hauths
  unfold matching
  rw [← List.head?_filter]
  generalize auths.filter (isItemOf connInfo) = items at *
  cases items with
  | nil => exact .inl ⟨rfl, rfl⟩
  | cons auth rest =>
    obtain ⟨hlater, -⟩ := List.pairwise_cons.mp hfirst
    rw [List.head?_cons, Option.filter_some, List.filter_cons]
    by_cases husable : usable auth = true
    · rw [if_pos husable, if_pos husable]
      refine .inr ⟨auth, rfl, List.mem_cons_self, fun other hother => ?_⟩
      rcases List.mem_cons.mp hother with rfl | hother
      · exact BitVec.le_refl _
      · exact (hlater other (List.mem_of_mem_filter hother) (List.mem_filter.mp hother).2).2
    · rw [if_neg husable, if_neg husable, List.filter_eq_nil_iff]
      exact .inl ⟨rfl, fun other hother hu => husable (hlater other hother hu).1⟩

theorem Orderly.isVerified (h : Orderly lists connInfo usable) (hauths : auths ∈ [lists.clients, lists.servers])
    {auth : AuthManagerItem Key} (hauth : auth ∈ matching connInfo usable auths) :
    auth.hasAuthPassed = true ∧ 0 < auth.lastVerifyTime ∧ auth.authId ≠ authInvalidId := by
  obtain ⟨hmem, husable⟩ := List.mem_filter.mp hauth
  obtain ⟨hmem, hitem⟩ := List.mem_filter.mp hmem
  refine h.verified auth (List.mem_append.mpr ?_) hitem husable
  simp only [List.mem_cons, List.not_mem_nil, or_false] at hauths
  rcases hauths with rfl | rfl
  · exact .inl hmem
  · exact .inr hmem

theorem Orderly.candidates_eq (h : Orderly lists connInfo usable) {valid : AuthManagerItem Key → Bool}
    (hvalid : ∀ auth, (auth.hasAuthPassed && valid auth) = (auth.hasAuthPassed && usable auth)) :
    lists.candidates connInfo valid =
      matching connInfo usable lists.clients ++ matching connInfo usable lists.servers := by
  unfold candidates matching
  rw [← List.filter_append, ← List.filter_append, List.filter_filter]
  refine List.filter_congr fun auth hauth => ?_
  rw [hvalid, Bool.and_comm (usable auth)]
  cases hitem : isItemOf connInfo auth with
  | false => rfl
  | true =>
    cases husable : usable auth with
    | false => simp
    | true => simp [(h.verified auth hauth hitem husable).1]

/-- A choice among the usable first matches that takes one, and of two the later verified one. -/
theorem Orderly.selects (h : Orderly lists connInfo usable) {authId : BitVec 64} {client server : Option (AuthManagerItem Key)}
    (hc : (lists.clients.find? (isItemOf connInfo)).filter usable = client)
    (hs : (lists.servers.find? (isItemOf connInfo)).filter usable = server)
    (hnone : client = none → server = none → authId = authInvalidId)
    (hclient : ∀ c, client = some c → server = none → 0 < c.lastVerifyTime → authId = c.authId)
    (hserver : ∀ s, client = none → server = some s → 0 < s.lastVerifyTime → authId = s.authId)
    (hboth : ∀ c ∈ matching connInfo usable lists.clients, ∀ s ∈ matching connInfo usable lists.servers,
      client = some c → server = some s → 0 < c.lastVerifyTime → 0 < s.lastVerifyTime →
        authId = s.authId ∧ c.lastVerifyTime ≤ s.lastVerifyTime ∨ authId = c.authId ∧ s.lastVerifyTime ≤ c.lastVerifyTime) :
    Selects (matching connInfo usable lists.clients ++ matching connInfo usable lists.servers) authId := by
  obtain ⟨hcn, hclients⟩ | ⟨c, hcs, hcl⟩ := h.find? (show lists.clients ∈ _ by simp)
  · obtain ⟨hsn, hservers⟩ | ⟨s, hss, hsl⟩ := h.find? (show lists.servers ∈ _ by simp)
    · rw [hclients, hservers, hnone (hc ▸ hcn) (hs ▸ hsn)]
      exact ⟨iff_of_true rfl rfl, fun hne => absurd rfl hne⟩
    · obtain ⟨-, hpos, hid⟩ := h.isVerified (by simp) hsl.1
      rw [hclients, List.nil_append, hserver s (hc ▸ hcn) (hs ▸ hss) hpos]
      exact selects_of_isLatest hsl hid
  · obtain ⟨-, hcpos, hcid⟩ := h.isVerified (by simp) hcl.1
    obtain ⟨hsn, hservers⟩ | ⟨s, hss, hsl⟩ := h.find? (show lists.servers ∈ _ by simp)
    · rw [hservers, List.append_nil, hclient c (hc ▸ hcs) (hs ▸ hsn) hcpos]
      exact selects_of_isLatest hcl hcid
    · obtain ⟨-, hpos, hid⟩ := h.isVerified (by simp) hsl.1
      obtain ⟨hpick, hle⟩ | ⟨hpick, hle⟩ := hboth c hcl.1 s hsl.1 (hc ▸ hcs) (hs ▸ hss) hcpos hpos
      · rw [hpick]
        exact selects_of_isLatest (hsl.append_right fun other ho => BitVec.le_trans (hcl.2 other ho) hle) hid
      · rw [hpick]
        exact selects_of_isLatest (hcl.append_left fun other ho => BitVec.le_trans (hsl.2 other ho) hle) hcid

theorem selects_active (h : Orderly lists connInfo (isActive now)) (hlater : lists.ServersLater connInfo now) :
    Selects (lists.candidates connInfo (isActive now)) (lists.getActiveAuthIdByConnInfo connInfo now) := by
  rw [h.candidates_eq fun _ => rfl]
  refine h.selects rfl rfl (fun hc hs => ?_) (fun c hc hs hpos => ?_) (fun s hc hs hpos => ?_)
    fun c hcm s hsm hc hs _ hpos => .inl ⟨?_, ?_⟩
  case refine_5 =>
    obtain ⟨hcm, hcactive⟩ := List.mem_filter.mp hcm
    obtain ⟨hsm, hsactive⟩ := List.mem_filter.mp hsm
    exact hlater c hcm s hsm hcactive hsactive
  all_goals
    unfold getActiveAuthIdByConnInfo found findAuthManagerByConnInfo
    simp only [List.map_cons, List.map_nil, List.foldl_cons, List.foldl_nil, Bool.false_eq_true, if_false, if_true, hc, hs]
  all_goals rw [if_pos hpos]

theorem selects_latest (h : Orderly lists connInfo (·.hasAuthPassed)) :
    Selects (lists.candidates connInfo fun _ => true) (lists.getLatestIdByConnInfo connInfo) := by
  -- one turn of the loop
  have hturn : ∀ (latest : BitVec 64 × BitVec 64) (auth? : Option (AuthManagerItem Key)),
      (match auth? with
        | none => latest
        | some auth =>
          if latest.2 < auth.lastVerifyTime && auth.hasAuthPassed then (auth.authId, auth.lastVerifyTime) else latest) =
      match auth?.filter (·.hasAuthPassed) with
        | none => latest
        | some auth => if latest.2 < auth.lastVerifyTime then (auth.authId, auth.lastVerifyTime) else latest := by
    rintro latest (_ | auth)
    · rfl
    · cases hpassed : auth.hasAuthPassed <;> simp [Option.filter_some, hpassed]
  rw [h.candidates_eq fun auth => by simp]
  unfold getLatestIdByConnInfo found findAuthManagerByConnInfo
  simp only [List.foldl_cons, List.foldl_nil, Bool.false_eq_true, if_false, if_true, hturn]
  refine h.selects rfl rfl (fun hc hs => ?_) (fun c hc hs hpos => ?_) (fun s hc hs hpos => ?_)
    fun c _ s _ hc hs hcpos _ => ?_
  · simp only [hc, hs]
  · simp only [hc, hs, if_pos hpos]
  · simp only [hc, hs, if_pos hpos]
  · simp only [hc, hs, if_pos hcpos]
    split
    · exact .inl ⟨rfl, BitVec.le_of_lt ‹_›⟩
    · exact .inr ⟨rfl, BitVec.not_lt.mp ‹_›⟩

end AuthManagerLists

end

end SoftBus
