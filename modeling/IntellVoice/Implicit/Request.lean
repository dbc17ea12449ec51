import IntellVoice.Implicit.Machine
import IntellVoice.Utils.StringUtil

/-! `ImplicitEnroll` gets or creates the engine and asks it to start. -/

namespace IntellVoice.Implicit
open Utils Utils.StringUtil

structure Creation where
  arbitrated : Bool
  created : Bool
  attach : Int

variable (read : String → Parsed)

def createEngine (c : Creation) (past : Outside) (engine : Option Instance) : Option Instance :=
  if !c.arbitrated then none
  else
    match engine with
    | some x => some x
    | none =>
      let (ret, x) := Instance.handle read { cell := { out := past } } (.init c.created c.attach)
      if ret ≠ 0 then none else some x

def setCallback (x : Instance) (object : Option Callback) : Instance :=
  match object with
  | none => x
  | some callback => (x.handle read (.setListener (some callback))).2

def findRequest (keyValueList : String) : List (String × String) → Option StateMsg
  | [] => none
  | (key, value) :: rest =>
    if key = "start_enroll" then some (.startRecognize (some value))
    else if key = "clear_data" then some (.setParam (some keyValueList))
    else findRequest keyValueList rest

def requestOf (keyValueList : String) : Option StateMsg :=
  findRequest keyValueList (splitStringToKVPair keyValueList).entries

def stalls (answered : Bool) (x : Instance) : StateMsg → Bool
  | .startRecognize (some param) =>
    x.state == .initialized && (checkParams (read param) x.cell.data.params).1.isNone
  | .setParam (some _) => x.state == .initialized && !answered
  | _ => false

def setParameter (answered : Bool) (x : Instance) (keyValueList : String) :
    Option (Int × Instance) :=
  match requestOf keyValueList with
  | none => some (0, x)
  | some m => if stalls read answered x m then none else some (0, (x.handle read m).2)

def startEnroll (wakeupInfo : String) : String := "start_enroll" ++ "=" ++ wakeupInfo

def implicitEnroll (c : Creation) (answered : Bool) (past : Outside) (engine : Option Instance)
    (wakeupInfo : String) (object : Option Callback) : Option (Int × Option Instance) :=
  match createEngine read c past engine with
  | none => some (-1, engine)
  | some x =>
    (setParameter read answered (setCallback read x object) (startEnroll wakeupInfo)).map
      fun (_, x) => (0, some x)

def trimmed (wakeupInfo : String) : String := .ofList (trim wakeupInfo.toList)

def Instance.fresh (past : Outside) : Instance :=
  ⟨.initialized, { data := { adapter := true, wakeupPhrase := defaultWakeupPhrase }, out := past }⟩

lemma createEngine_new {read : String → Parsed} {c : Creation} {past : Outside} {x : Instance}
    (h : createEngine read c past none = some x) : x = .fresh past := by
  unfold createEngine at h
  split at h
  · cases h
  obtain ⟨ret, y, hhandle⟩ : ∃ ret y, Instance.handle read { cell := { out := past } }
    (.init c.created c.attach) = (ret, y) := ⟨_, _, rfl⟩
  simp only [hhandle] at h
  obtain ⟨hret, h⟩ := Option.ite_none_left_eq_some.1 h
  cases h
  generalize hm : StateMsg.init c.created c.attach = m at hhandle
  cases Machine.handled hhandle with
  | attached hstate => rfl
  | unprocessed m hstate =>
    rw [← hm] at hstate
    exact absurd rfl hstate
  | notCreated attach hstate | notAttached attach hstate hattach => exact absurd (by decide) hret
  | _ => cases hm

variable {answered : Bool} {x' : Instance} {object : Option Callback} {m : StateMsg}
  {list request wakeupInfo : String}

lemma find?_of_findRequest {m : OrderedMap String String} {value : String}
    (h : findRequest list m.entries = some (.startRecognize (some value))) :
    m.find? "start_enroll" = some value := by
  rw [OrderedMap.find?_eq_some_iff]
  generalize m.entries = entries at h
  induction entries with
  | nil => cases h
  | cons entry rest ih =>
    obtain ⟨key, value'⟩ := entry
    unfold findRequest at h
    split at h
    · rename_i hkey
      cases h
      rw [hkey]
      exact List.mem_cons_self
    · split at h
      · cases h
      · exact List.mem_cons_of_mem _ (ih h)

lemma requestOf_cases {keyValueList : String} (h : requestOf keyValueList = some m) :
    (∃ value, m = .startRecognize (some value)) ∨ m = .setParam (some keyValueList) := by
  unfold requestOf at h
  generalize (splitStringToKVPair keyValueList).entries = entries at h
  induction entries with
  | nil => cases h
  | cons entry rest ih =>
    obtain ⟨key, value⟩ := entry
    unfold findRequest at h
    split at h
    · exact .inl ⟨value, (Option.some.inj h).symm⟩
    split at h
    · exact .inr (Option.some.inj h).symm
    · exact ih h

lemma toList_startEnroll (wakeupInfo : String) : (startEnroll wakeupInfo).toList =
      "start_enroll".toList ++ delimiterEqualSign :: wakeupInfo.toList := by
  simp [startEnroll, delimiterEqualSign]

lemma requestOf_startEnroll (h : ';' ∉ wakeupInfo.toList) : requestOf (startEnroll wakeupInfo) =
      if trim wakeupInfo.toList = [] then none
      else some (.startRecognize (some (trimmed wakeupInfo))) := by
  have hsplit := splitStringToKVPair_single (toList_startEnroll wakeupInfo) (by decide) (by decide)
    (by decide) h
  rw [requestOf, hsplit]
  by_cases hblank : trim wakeupInfo.toList = []
  · rw [if_pos hblank, if_pos hblank]
    rfl
  · rw [if_neg hblank, if_neg hblank]
    rfl

lemma whole_of_requestOf
    (h : requestOf (startEnroll wakeupInfo) = some (.startRecognize (some (trimmed wakeupInfo)))) :
    ';' ∉ wakeupInfo.toList ∧ trim wakeupInfo.toList ≠ [] := by
  have hvalue := not_mem_value (find?_of_findRequest h)
  rw [trimmed, String.toList_ofList] at hvalue
  have hsemicolon : ';' ∉ wakeupInfo.toList := fun hmem => hvalue (mem_trim hmem (by decide))
  refine ⟨hsemicolon, fun hblank => ?_⟩
  rw [requestOf_startEnroll hsemicolon, if_pos hblank] at h
  cases h

structure Accepted (x x' : Instance) (request : String) : Prop where
  before : x.state = .initialized
  after : x'.state = .recognizing
  request : x'.cell.out.starts = x.cell.out.starts ++ [request]

structure Acceptable (x : Instance) (wakeupInfo : String) : Prop where
  whole : ';' ∉ wakeupInfo.toList
  nonblank : trim wakeupInfo.toList ≠ []
  valid : (checkParams (read (trimmed wakeupInfo)) x.cell.data.params).1 = some true

variable {read} {x : Instance}

lemma accepted_iff_message : Accepted x (x.handle read m).2 request ↔
      x.state = .initialized ∧ m = .startRecognize (some request) ∧
        (checkParams (read request) x.cell.data.params).1 = some true := by
  obtain ⟨ret, x', hhandle⟩ : ∃ ret x', x.handle read m = (ret, x') := ⟨_, _, rfl⟩
  have hhandled := Machine.handled hhandle
  rw [hhandle]
  constructor
  · rintro ⟨hbefore, hafter, hstarts⟩
    refine ⟨hbefore, ?_⟩
    cases hhandled with
    | started param params hstate hcheck =>
      obtain rfl : param = request := by simpa using hstarts
      exact ⟨rfl, by rw [hcheck]⟩
    | _ => simp_all [Instance.setParams, Instance.listen]
  · rintro ⟨hbefore, rfl, hvalid⟩
    cases hhandled with
    | unprocessed m hstate => exact absurd hbefore hstate
    | rejected param ok params hstate hcheck hok =>
      rw [hcheck] at hvalid
      exact absurd hvalid hok
    | started param params hstate hcheck => exact ⟨hbefore, rfl, rfl⟩

lemma setCallback_frame (read : String → Parsed) (x : Instance) (object : Option Callback) :
    (setCallback read x object).state = x.state ∧
      (setCallback read x object).cell.data.params = x.cell.data.params ∧
      (setCallback read x object).cell.out.starts = x.cell.out.starts := by
  cases object with
  | none => exact ⟨rfl, rfl, rfl⟩
  | some callback =>
    obtain ⟨ret, x', hhandle⟩ : ∃ ret x', x.handle read (.setListener (some callback)) =
      (ret, x') := ⟨_, _, rfl⟩
    rw [setCallback, hhandle]
    cases Machine.handled hhandle with
    | unprocessed m hstate => exact absurd trivial hstate
    | callbackSet callback => exact ⟨rfl, rfl, rfl⟩

lemma stalls_setCallback (read : String → Parsed) (x : Instance) (object : Option Callback)
    (answered : Bool) (m : StateMsg) :
    stalls read answered (setCallback read x object) m = stalls read answered x m := by
  obtain ⟨hstate, hparams, -⟩ := setCallback_frame read x object
  unfold stalls
  rw [hstate, hparams]

lemma accepted_setCallback (read : String → Parsed) (object : Option Callback) :
    Accepted (setCallback read x object) x' request ↔ Accepted x x' request := by
  obtain ⟨hstate, -, hstarts⟩ := setCallback_frame read x object
  exact ⟨fun h => ⟨hstate ▸ h.before, h.after, hstarts ▸ h.request⟩,
    fun h => ⟨hstate.trans h.before, h.after, by rw [hstarts]; exact h.request⟩⟩

lemma accepted_iff {ret : Int}
    (h : setParameter read answered (setCallback read x object) (startEnroll wakeupInfo) = some
      (ret, x')) :
    Accepted x x' (trimmed wakeupInfo) ↔ x.state = .initialized ∧ Acceptable read x wakeupInfo := by
  obtain ⟨hstate, hparams, -⟩ := setCallback_frame read x object
  rw [← accepted_setCallback read object, ← hstate]
  unfold setParameter at h
  cases hrequest : requestOf (startEnroll wakeupInfo) with
  | none =>
    rw [hrequest] at h
    cases h
    refine iff_of_false (fun haccepted => ?_) fun hcond => ?_
    · simpa using haccepted.request
    · have hacceptable := hcond.2
      rw [requestOf_startEnroll hacceptable.whole, if_neg hacceptable.nonblank] at hrequest
      cases hrequest
  | some m =>
    rw [hrequest] at h
    obtain ⟨-, h⟩ := Option.ite_none_left_eq_some.1 h
    cases h
    rw [accepted_iff_message, hparams]
    refine and_congr_right fun hinitialized => ⟨fun ⟨hm, hvalid⟩ => ?_, fun hacceptable => ?_⟩
    · subst hm
      obtain ⟨hwhole, hnonblank⟩ := whole_of_requestOf hrequest
      exact ⟨hwhole, hnonblank, hvalid⟩
    · rw [requestOf_startEnroll hacceptable.whole, if_neg hacceptable.nonblank] at hrequest
      cases hrequest
      exact ⟨rfl, hacceptable.valid⟩

lemma setParameter_eq_none_iff : setParameter read answered x list = none ↔
      ∃ m, requestOf list = some m ∧ stalls read answered x m := by
  unfold setParameter
  cases requestOf list with
  | none | some m => simp

lemma startEnroll_eq_none_iff :
    setParameter read answered (setCallback read x object) (startEnroll wakeupInfo) = none ↔
      ∃ m, requestOf (startEnroll wakeupInfo) = some m ∧ stalls read answered x m := by
  rw [setParameter_eq_none_iff]
  simp only [stalls_setCallback]

theorem implicitEnroll_truthful_iff (read : String → Parsed) (c : Creation) (answered : Bool)
    (past : Outside) (engine : Option Instance) (wakeupInfo : String) (object : Option Callback) :
    (∀ engine', implicitEnroll read c answered past engine wakeupInfo object = some (0, engine') →
      ∃ x x', createEngine read c past engine = some x ∧ engine' = some x' ∧
        Accepted x x' (trimmed wakeupInfo)) ↔
    ∀ x, createEngine read c past engine = some x →
      (x.state = .initialized ∧ Acceptable read x wakeupInfo) ∨
        ∃ m, requestOf (startEnroll wakeupInfo) = some m ∧ stalls read answered x m := by
  simp only [implicitEnroll]
  cases hcreate : createEngine read c past engine with
  | none =>
    refine iff_of_true (fun engine' h => ?_) fun x hx => ?_
    · simp at h
    · cases hx
  | some x =>
    cases hset : setParameter read answered (setCallback read x object)
        (startEnroll wakeupInfo) with
    | none =>
      refine iff_of_true (fun engine' h => ?_) fun y hy => ?_
      · simp only [hset, Option.map_none] at h
        cases h
      · cases hy
        exact .inr (startEnroll_eq_none_iff.1 hset)
    | some result =>
      obtain ⟨ret, x'⟩ := result
      have hiff := accepted_iff hset
      simp only [hset, Option.map_some]
      constructor
      · intro htrue y hy
        cases hy
        obtain ⟨y, y', hy, hy', haccepted⟩ := htrue (some x') rfl
        cases hy
        cases hy'
        exact .inl (hiff.1 haccepted)
      · intro hcond engine' hresult
        cases hresult
        rcases hcond x rfl with hacceptable | hstalls
        · exact ⟨x, x', rfl, rfl, hiff.2 hacceptable⟩
        · cases hset.symm.trans (startEnroll_eq_none_iff.2 hstalls)

theorem implicitEnroll_reports_rejected_request :
    let x : Instance := ⟨.initialized, { data := { adapter := true } }⟩
    ∃ x', implicitEnroll (fun _ => .invalid) ⟨true, true, 0⟩ true {} (some x) "hello" none =
        some (0, some x') ∧
      createEngine (fun _ => .invalid) ⟨true, true, 0⟩ {} (some x) = some x ∧
      x'.state = .initialized ∧ ¬ Accepted x x' (trimmed "hello") :=
  ⟨_, rfl, rfl, rfl, fun h => by cases h.after⟩

end IntellVoice.Implicit
