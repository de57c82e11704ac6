import SelfConnect.Library.Outcomes
import SelfConnect.Observer.Export
import SelfConnect.Python.Json.Sorted
import SelfConnect.Replication.Agreement

namespace SelfConnect.Observer

open SelfConnect.Python SelfConnect.Python.Json SelfConnect.Library SelfConnect.Ledger
open SelfConnect.Replication

/-! What the exports show of the fields that are redacted. -/

/-- The entries have one key, and one value except where the values may differ. -/
def SameBut (free : Key → Bool) (first second : Key × Value) : Prop :=
  first.1 = second.1 ∧ (free first.1 = true ∨ first.2 = second.2)

namespace RedactionConfig

variable (redaction : RedactionConfig)

def removes (key : Key) : Bool :=
  redaction.removeFields.any fun name => decide (key = .str name)

def masks (key : Key) : Bool :=
  redaction.maskFields.any fun masked => decide (key = .str masked.1)

def redacts (name : String) : Bool :=
  redaction.removes (.str (Str.lit name)) || redaction.masks (.str (Str.lit name))

/-- The entries differ in redacted fields only. -/
def Alike : Value → Value → Prop
  | .dict first, .dict second =>
      List.Forall₂ (SameBut redaction.masks)
        (first.filter fun entry => !redaction.removes entry.1)
        (second.filter fun entry => !redaction.removes entry.1)
  | first, second => first = second

end RedactionConfig

section Claims

variable (upper : Str → Str) (observer : LedgerObserver)

/-- The filter restricts no redacted field. -/
def LedgerObserver.Unrestricted : Prop :=
  ∀ first second, IsJson first → IsJson second → observer.redaction.Alike first second →
    observer.filter.matches upper first = observer.filter.matches upper second

/-- The filter accepts nothing. -/
def LedgerObserver.Silent : Prop :=
  ∀ entry, IsJson entry → observer.accepts upper entry = false

/-- Two ledgers that differ in redacted fields only are exported alike, in every format. -/
def LedgerObserver.Unaffected (builtins : Builtins) (repr : Value → Str) : Prop :=
  ∀ verdict first second sinceSeq,
    List.Forall₂ observer.redaction.Alike (loadEntries first) (loadEntries second) →
      (∀ fmt, exportFromLedger builtins repr upper observer fmt verdict (some first) sinceSeq =
        exportFromLedger builtins repr upper observer fmt verdict (some second) sinceSeq) ∧
      ∀ signer kind,
        exportFromVerifiedObserver builtins upper observer signer kind verdict (some first)
            sinceSeq =
          exportFromVerifiedObserver builtins upper observer signer kind verdict (some second)
            sinceSeq

/-- What the formats and the events read of the entry as the ledger has it, beside `seq`. -/
def exportedFields : List String :=
  ["agent_id", "action", "result", "ts", "policy_id", "classification", "approval_mode"]

end Claims

/-! Entries that are alike. -/

section Entries

variable {redaction : RedactionConfig}

theorem sameBut_refl (free : Key → Bool) (members : Members) :
    List.Forall₂ (SameBut free) members members :=
  List.forall₂_same.mpr fun _ _ => ⟨rfl, .inr rfl⟩

theorem lookup_filter {keep : Key → Bool} {name : Str} (kept : keep (.str name) = true)
    (members : Members) :
    Members.lookup name (members.filter fun entry => keep entry.1) =
      Members.lookup name members := by
  induction members with
  | nil => rfl
  | cons entry rest ih =>
      obtain ⟨key, value⟩ := entry
      by_cases isName : key = .str name
      · rw [isName, List.filter_cons, if_pos kept, Members.lookup, Members.lookup, if_pos rfl,
          if_pos rfl]
      · have passes : ∀ members : Members,
            Members.lookup name ((key, value) :: members) = Members.lookup name members := by
          intro members
          cases key with
          | str other => rw [Members.lookup, if_neg fun same => isName (congrArg Key.str same)]
          | int | float | bool | null => rfl
        rw [List.filter_cons, passes]
        split
        · rw [passes, ih]
        · exact ih

theorem lookup_sameBut {free : Key → Bool} {name : Str} (fixed : free (.str name) = false)
    {first second : Members} (same : List.Forall₂ (SameBut free) first second) :
    Members.lookup name first = Members.lookup name second := by
  induction same with
  | nil => rfl
  | @cons entry other first second here _ ih =>
      obtain ⟨key, value⟩ := entry
      obtain ⟨key', value'⟩ := other
      obtain ⟨isKey, differs⟩ := here
      dsimp only at isKey differs
      subst isKey
      cases key with
      | str s =>
          rw [Members.lookup, Members.lookup, ih]
          by_cases isName : s = name
          · rw [if_pos isName, if_pos isName]
            rw [isName, fixed] at differs
            exact congrArg some (differs.resolve_left Bool.false_ne_true)
          · rw [if_neg isName, if_neg isName]
      | int | float | bool | null => exact ih

theorem get?_of_alike {first second : Value} (alike : redaction.Alike first second)
    {name : String} (shown : redaction.redacts name = false) :
    first.get? name = second.get? name := by
  obtain ⟨notRemoved, notMasked⟩ := Bool.or_eq_false_iff.mp shown
  unfold RedactionConfig.Alike at alike
  split at alike
  · next first second =>
      have kept : (!redaction.removes (.str (Str.lit name))) = true := by rw [notRemoved]; rfl
      rw [Value.get?_dict, Value.get?_dict, ← @lookup_filter (fun key => !redaction.removes key) _
        kept first, ← @lookup_filter (fun key => !redaction.removes key) _ kept second]
      exact lookup_sameBut notMasked alike
  · rw [alike]

theorem getD_of_alike {first second : Value} (alike : redaction.Alike first second)
    {name : String} (shown : redaction.redacts name = false) (default : Value) :
    first.getD name default = second.getD name default := by
  rw [Value.getD, Value.getD, get?_of_alike alike shown]

theorem isDict_of_alike {first second : Value} (alike : redaction.Alike first second) :
    first.isDict = second.isDict := by
  unfold RedactionConfig.Alike at alike
  split at alike
  · rfl
  · rw [alike]

/-! Redaction makes them equal. -/

theorem foldl_erase (names : List Str) (members : Members) :
    names.foldl (fun members name => Members.erase name members) members =
      members.filter fun entry => !names.any fun name => decide (entry.1 = .str name) := by
  induction names generalizing members with
  | nil => exact (List.filter_eq_self.mpr fun _ _ => rfl).symm
  | cons name rest ih =>
      rw [List.foldl_cons, ih, Members.erase, List.filter_filter]
      apply List.filter_congr
      intro entry _
      rw [List.any_cons, Bool.not_or, Bool.and_comm, decide_not]

def masked (name mask : Str) (entry : Key × Value) : Key × Value :=
  if entry.1 = .str name then (entry.1, .str mask) else entry

theorem map_masked_of_absent {name mask : Str} {members : Members}
    (absent : ∀ entry ∈ members, entry.1 ≠ .str name) :
    members.map (masked name mask) = members := by
  conv_rhs => rw [← List.map_id members]
  apply List.map_congr_left
  intro entry member
  exact if_neg (absent entry member)

theorem set_eq_map {name : Str} {members : Members} (distinct : (members.map Prod.fst).Nodup)
    {value : Value} (present : (Key.str name, value) ∈ members) (mask : Str) :
    Members.set name (.str mask) members = members.map (masked name mask) := by
  induction members with
  | nil => cases present
  | cons entry rest ih =>
      obtain ⟨key, other⟩ := entry
      rw [List.map_cons, List.nodup_cons] at distinct
      rw [Members.set, List.map_cons, masked]
      by_cases isName : key = .str name
      · rw [if_pos isName, if_pos isName, map_masked_of_absent]
        intro entry member same
        exact distinct.1 (List.mem_map.mpr ⟨entry, member, same.trans isName.symm⟩)
      · rw [if_neg isName, if_neg isName, ih distinct.2]
        refine (List.mem_cons.mp present).resolve_left ?_
        intro same
        exact isName (congrArg Prod.fst same).symm

theorem maskField_eq_map {members : Members} (distinct : (members.map Prod.fst).Nodup)
    (name mask : Str) :
    RedactionConfig.maskField members (name, mask) = members.map (masked name mask) := by
  unfold RedactionConfig.maskField
  dsimp only
  cases found : Members.lookup name members with
  | none =>
      rw [if_neg (by simp), map_masked_of_absent]
      rintro ⟨key, value⟩ member same
      dsimp only at same
      subst same
      exact Members.absent_of_lookup_eq_none found _ member
  | some value =>
      rw [Option.isSome_some, if_pos rfl]
      exact set_eq_map distinct (Members.mem_of_lookup found) mask

theorem keys_masked (name mask : Str) (members : Members) :
    (members.map (masked name mask)).map Prod.fst = members.map Prod.fst := by
  rw [List.map_map]
  apply List.map_congr_left
  intro entry _
  rw [Function.comp_apply, masked]
  split <;> rfl

theorem maskFields_eq {fields : List (Str × Str)} {first second : Members}
    (distinct : (first.map Prod.fst).Nodup) (distinct' : (second.map Prod.fst).Nodup)
    (same : List.Forall₂
      (SameBut fun key => fields.any fun field => decide (key = .str field.1)) first second) :
    fields.foldl RedactionConfig.maskField first =
      fields.foldl RedactionConfig.maskField second := by
  induction fields generalizing first second with
  | nil =>
      have equal : List.Forall₂ Eq first second := by
        refine same.imp ?_
        intro entry other here
        exact Prod.ext here.1 (here.2.resolve_left Bool.false_ne_true)
      rw [List.forall₂_eq_eq_eq] at equal
      rw [equal]
  | cons field rest ih =>
      obtain ⟨name, mask⟩ := field
      rw [List.foldl_cons, List.foldl_cons, maskField_eq_map distinct, maskField_eq_map distinct']
      apply ih
      · rw [keys_masked]
        exact distinct
      · rw [keys_masked]
        exact distinct'
      · rw [List.forall₂_map_left_iff, List.forall₂_map_right_iff]
        refine same.imp ?_
        rintro ⟨key, value⟩ ⟨key', value'⟩ ⟨isKey, differs⟩
        dsimp only at isKey differs
        subst isKey
        by_cases isName : key = .str name
        · rw [masked, masked, if_pos isName, if_pos isName]
          exact ⟨rfl, .inr rfl⟩
        · rw [masked, masked, if_neg isName, if_neg isName]
          refine ⟨rfl, differs.imp_left ?_⟩
          rw [List.any_cons, decide_eq_false isName, Bool.false_or]
          exact id

theorem apply_of_alike {first second : Value} (json : IsJson first) (json' : IsJson second)
    (alike : redaction.Alike first second) : redaction.apply first = redaction.apply second := by
  unfold RedactionConfig.Alike at alike
  split at alike
  · next first second =>
      have shorter : ∀ {members : Members}, (members.map Prod.fst).Nodup →
          ((members.filter fun entry => !redaction.removes entry.1).map Prod.fst).Nodup :=
        fun distinct => distinct.sublist (List.filter_sublist.map Prod.fst)
      unfold RedactionConfig.apply
      dsimp only
      rw [foldl_erase, foldl_erase]
      exact congrArg Value.dict (maskFields_eq (shorter json.1) (shorter json'.1) alike)
  · rw [alike]

end Entries

/-! Two extractions side by side. -/

/-- The records show the same, wherever they are written. -/
structure EvidenceRecord.Shows (first second : EvidenceRecord) : Prop where
  seq : first.seq = second.seq
  agentId : first.agentId = second.agentId
  action : first.action = second.action
  result : first.result = second.result
  ts : first.ts = second.ts
  policyId : first.policyId = second.policyId
  classification : first.classification = second.classification
  approvalMode : first.approvalMode = second.approvalMode
  contextBefore : first.contextBefore = second.contextBefore
  raw : first.raw = second.raw

section Extraction

variable {upper : Str → Str} {observer : LedgerObserver}

def JsonAlike (redaction : RedactionConfig) (first second : Value) : Prop :=
  IsJson first ∧ IsJson second ∧ redaction.Alike first second

/-- What is read of an entry for a record is not redacted, or no record is made. -/
def Covered (upper : Str → Str) (observer : LedgerObserver) : Prop :=
  observer.redaction.redacts "seq" = false ∧
    (observer.Silent upper ∨ ∀ name ∈ exportedFields, observer.redaction.redacts name = false)

theorem acceptedEntries_agrees (free : observer.Unrestricted upper) {first second : List Value}
    (alike : List.Forall₂ (JsonAlike observer.redaction) first second) :
    Agrees (List.Forall₂ (JsonAlike observer.redaction)) (observer.acceptedEntries upper first)
      (observer.acceptedEntries upper second) := by
  induction alike with
  | nil => exact .nil
  | @cons entry other first second here _ ih =>
      unfold LedgerObserver.acceptedEntries
      refine (agrees_of_eq (free entry other here.1 here.2.1 here.2.2)).bind ?_
      intro isMatch isMatch' same
      refine ih.bind ?_
      intro further further' related
      rw [same]
      cases isMatch' with
      | true => exact .cons here related
      | false => exact related

theorem contextOf_agrees (free : observer.Unrestricted upper) {first second : List Value}
    (alike : List.Forall₂ (JsonAlike observer.redaction) first second) :
    Agrees (fun context context' => context.map observer.redaction.apply =
        context'.map observer.redaction.apply) (observer.contextOf upper first)
      (observer.contextOf upper second) := by
  unfold LedgerObserver.contextOf
  rw [alike.length_eq]
  have accepted := acceptedEntries_agrees free
    (List.forall₂_drop (second.length - observer.contextWindow) alike)
  have redacted : ∀ {context context' : List Value},
      List.Forall₂ (JsonAlike observer.redaction) context context' →
        context.map observer.redaction.apply = context'.map observer.redaction.apply := by
    intro context context' related
    rw [← List.forall₂_eq_eq_eq, List.forall₂_map_left_iff, List.forall₂_map_right_iff]
    exact related.imp fun _ _ here => apply_of_alike here.1 here.2.1 here.2.2
  revert accepted
  generalize observer.acceptedEntries upper _ = outcome
  generalize observer.acceptedEntries upper _ = outcome'
  intro accepted
  cases outcome with
  | error raised =>
      cases outcome' with
      | error raised' => exact accepted
      | ok context' => cases accepted
  | ok context =>
      cases outcome' with
      | error raised' => cases accepted
      | ok context' => exact redacted accepted

theorem shows_recordOf {first second : Value} (alike : JsonAlike observer.redaction first second)
    (seqShown : observer.redaction.redacts "seq" = false)
    (shown : ∀ name ∈ exportedFields, observer.redaction.redacts name = false)
    {context context' : List Value} (same : context = context') :
    (recordOf observer.redaction context first).Shows
      (recordOf observer.redaction context' second) where
  seq := getD_of_alike alike.2.2 seqShown _
  agentId := getD_of_alike alike.2.2 (shown _ (by simp [exportedFields])) _
  action := getD_of_alike alike.2.2 (shown _ (by simp [exportedFields])) _
  result := getD_of_alike alike.2.2 (shown _ (by simp [exportedFields])) _
  ts := getD_of_alike alike.2.2 (shown _ (by simp [exportedFields])) _
  policyId := getD_of_alike alike.2.2 (shown _ (by simp [exportedFields])) _
  classification := getD_of_alike alike.2.2 (shown _ (by simp [exportedFields])) _
  approvalMode := getD_of_alike alike.2.2 (shown _ (by simp [exportedFields])) _
  contextBefore := same
  raw := apply_of_alike alike.1 alike.2.1 alike.2.2

theorem extractFrom_agrees (free : observer.Unrestricted upper) (covered : Covered upper observer)
    (floor : Int) {before before' entries entries' : List Value}
    (passed : List.Forall₂ (JsonAlike observer.redaction) before before')
    (alike : List.Forall₂ (JsonAlike observer.redaction) entries entries') :
    Agrees (List.Forall₂ EvidenceRecord.Shows) (observer.extractFrom upper floor before entries)
      (observer.extractFrom upper floor before' entries') := by
  induction alike generalizing before before' with
  | nil => exact .nil
  | @cons entry other entries entries' here _ ih =>
      have next := ih (List.rel_append passed (.cons here .nil))
      have sameSeq : seqAtMost entry floor = seqAtMost other floor := by
        rw [seqAtMost, seqAtMost, isDict_of_alike here.2.2, getD_of_alike here.2.2 covered.1]
      have sameMatch := free entry other here.1 here.2.1 here.2.2
      unfold LedgerObserver.extractFrom
      refine (agrees_of_eq sameSeq).bind ?_
      intro isAtMost isAtMost' isSame
      rw [isSame]
      cases isAtMost' with
      | true => exact next
      | false =>
          rw [if_neg Bool.false_ne_true, if_neg Bool.false_ne_true]
          cases matched : observer.filter.matches upper entry with
          | error raised =>
              rw [← sameMatch, matched]
              exact rfl
          | ok isMatch =>
              rw [← sameMatch, matched]
              cases isMatch with
              | false => exact next
              | true =>
                  have accepted := (observer.accepts_iff upper).mpr matched
                  have shown := covered.2.resolve_left fun silent =>
                    Bool.false_ne_true ((silent entry here.1).symm.trans accepted)
                  refine (contextOf_agrees free passed).bind ?_
                  intro context context' sameContext
                  refine next.bind ?_
                  intro further further' related
                  exact .cons (shows_recordOf here covered.1 shown sameContext) related

/-! Records that show the same are written alike. -/

variable {builtins : Builtins} {repr : Value → Str}

theorem apply_of_shows {first second : EvidenceRecord} (shows : first.Shows second)
    (fmt : Format) : fmt.apply builtins repr first = fmt.apply builtins repr second := by
  cases fmt with
  | alpaca =>
      change first.toAlpaca builtins repr = second.toAlpaca builtins repr
      rw [EvidenceRecord.toAlpaca, EvidenceRecord.priorActions, EvidenceRecord.instruction,
        EvidenceRecord.outcome, shows.contextBefore, shows.agentId, shows.policyId,
        shows.classification, shows.action, shows.result, shows.seq, shows.approvalMode, shows.ts]
      rfl
  | chat =>
      change first.toChat builtins repr = second.toChat builtins repr
      rw [EvidenceRecord.toChat, EvidenceRecord.priorActions, EvidenceRecord.outcome,
        shows.contextBefore, shows.agentId, shows.policyId, shows.classification, shows.action,
        shows.result, shows.seq, shows.approvalMode]
      rfl
  | raw => exact congrArg Except.ok shows.raw

theorem writeRecords_of_shows {first second : List EvidenceRecord}
    (shows : List.Forall₂ EvidenceRecord.Shows first second) (fmt : Format) :
    writeRecords builtins repr fmt first = writeRecords builtins repr fmt second := by
  induction shows with
  | nil => rfl
  | cons here _ ih => rw [writeRecords, writeRecords, apply_of_shows here, ih]

theorem exportRecords_of_shows {first second : List EvidenceRecord}
    (shows : List.Forall₂ EvidenceRecord.Shows first second) (signer : NostrEventSigner)
    (kind : Int) :
    first.mapM (exportRecord builtins signer kind) =
      second.mapM (exportRecord builtins signer kind) := by
  induction shows with
  | nil => rfl
  | @cons record other _ _ here _ ih =>
      have same : exportRecord builtins signer kind record =
          exportRecord builtins signer kind other := by
        rw [exportRecord, exportRecord, here.ts, here.raw, here.seq, here.agentId,
          here.classification]
      rw [List.mapM_cons, List.mapM_cons, same, ih]

theorem jsonAlike_loadEntries {redaction : RedactionConfig} {first second : Text}
    (alike : List.Forall₂ redaction.Alike (loadEntries first) (loadEntries second)) :
    List.Forall₂ (JsonAlike redaction) (loadEntries first) (loadEntries second) := by
  have json : ∀ text, ∀ entry ∈ loadEntries text, IsJson entry := by
    intro text entry member
    obtain ⟨line, -, isLoaded⟩ := List.mem_filterMap.mp member
    exact isJson_loads isLoaded
  have both := List.forall₂_iff_get.mp alike
  refine List.forall₂_iff_get.mpr ⟨both.1, ?_⟩
  intro i inFirst inSecond
  exact ⟨json _ _ (List.get_mem _ _), json _ _ (List.get_mem _ _), both.2 i inFirst inSecond⟩

theorem extractWith_agrees (free : observer.Unrestricted upper) (covered : Covered upper observer)
    (verdict : Option (Bool × Message)) {first second : Text}
    (alike : List.Forall₂ observer.redaction.Alike (loadEntries first) (loadEntries second))
    (sinceSeq : Int) :
    Agrees (List.Forall₂ EvidenceRecord.Shows)
      (observer.extractWith upper verdict (some first) sinceSeq)
      (observer.extractWith upper verdict (some second) sinceSeq) := by
  have loop := extractFrom_agrees free covered (max observer.filter.minSeq sinceSeq) .nil
    (jsonAlike_loadEntries alike)
  unfold LedgerObserver.extractWith
  cases observer.unsafeUnverified with
  | true => exact loop
  | false =>
      rcases verdict with _ | ⟨_ | _, message⟩
      · exact rfl
      · exact rfl
      · exact loop

theorem unaffected_of_covered (free : observer.Unrestricted upper)
    (covered : Covered upper observer) : observer.Unaffected upper builtins repr := by
  intro verdict first second sinceSeq alike
  have agrees := extractWith_agrees free covered verdict alike sinceSeq
  unfold exportFromLedger exportFromVerifiedObserver
  revert agrees
  generalize observer.extractWith upper verdict (some first) sinceSeq = outcome
  generalize observer.extractWith upper verdict (some second) sinceSeq = outcome'
  intro agrees
  cases outcome with
  | error raised =>
      cases outcome' with
      | error raised' =>
          rw [show raised = raised' from agrees]
          exact ⟨fun _ => rfl, fun _ _ => rfl⟩
      | ok records' => cases agrees
  | ok records =>
      cases outcome' with
      | error raised' => cases agrees
      | ok records' =>
          have shows : List.Forall₂ EvidenceRecord.Shows records records' := agrees
          constructor
          · intro fmt
            dsimp only
            rw [writeRecords_of_shows shows, shows.length_eq]
          · intro signer kind
            dsimp only
            rw [exportRecords_of_shows shows]

end Extraction

/-! Two ledgers of one entry tell a redacted field that is read. -/

section Reading

variable {upper : Str → Str} {observer : LedgerObserver} {builtins : Builtins}
  {repr : Value → Str} {members : Members}

theorem loadEntries_single (json : IsJson (.dict members)) :
    loadEntries (fileText .default [.dict members]) = [.dict members] := by
  rw [loadEntries, filledLines_fileText rfl boundary_isNewline rfl rfl (by simp [Value.isDict]),
    List.map_singleton, List.filterMap_cons, loads_render_of_isJson rfl json]
  rfl

theorem alike_set {redaction : RedactionConfig} {name : String}
    (isRedacted : redaction.redacts name = true) (v w : Value) (members : Members) :
    redaction.Alike (.dict (Members.set (Str.lit name) v members))
      (.dict (Members.set (Str.lit name) w members)) := by
  have heads : ∀ {first second : Members}, List.Forall₂ (SameBut redaction.masks) first second →
      List.Forall₂ (SameBut redaction.masks)
        (if !redaction.removes (.str (Str.lit name)) then (.str (Str.lit name), v) :: first
          else first)
        (if !redaction.removes (.str (Str.lit name)) then (.str (Str.lit name), w) :: second
          else second) := by
    intro first second tail
    cases removed : redaction.removes (.str (Str.lit name)) with
    | true => exact tail
    | false =>
        rw [RedactionConfig.redacts, removed, Bool.false_or] at isRedacted
        exact .cons ⟨rfl, .inl isRedacted⟩ tail
  unfold RedactionConfig.Alike
  dsimp only
  induction members with
  | nil =>
      simp only [Members.set, List.filter_cons, List.filter_nil]
      exact heads .nil
  | cons entry rest ih =>
      obtain ⟨key, value⟩ := entry
      rw [Members.set, Members.set]
      by_cases isName : key = .str (Str.lit name)
      · rw [if_pos isName, if_pos isName, List.filter_cons, List.filter_cons]
        dsimp only
        rw [isName]
        exact heads (sameBut_refl _ _)
      · rw [if_neg isName, if_neg isName, List.filter_cons, List.filter_cons]
        dsimp only
        split
        · exact .cons ⟨rfl, .inr rfl⟩ ih
        · exact ih

theorem getD_set_self (name : String) (v default : Value) :
    (Value.dict (Members.set (Str.lit name) v members)).getD name default = v := by
  rw [Value.getD, Value.get?_dict, Members.lookup_set_self, Option.getD_some]

theorem getD_set_other {name other : String} (differs : other ≠ name) (v default : Value) :
    (Value.dict (Members.set (Str.lit other) v members)).getD name default =
      (Value.dict members).getD name default := by
  have apart : Str.lit other ≠ Str.lit name := mt (Str.lit_inj _ _).mp differs
  rw [Value.getD, Value.getD, Value.get?_dict, Value.get?_dict, Members.lookup_set_other apart]

/-- A verifier that finds nothing wrong. -/
def verifiedVerdict : Option (Bool × Message) := some (true, .empty)

theorem extractWith_single (json : IsJson (.dict members)) (sinceSeq : Int) :
    observer.extractWith upper verifiedVerdict (some (fileText .default [.dict members])) sinceSeq =
      observer.extractFrom upper (max observer.filter.minSeq sinceSeq) [] [.dict members] := by
  have read : observer.extractWith upper verifiedVerdict
        (some (fileText .default [.dict members])) sinceSeq =
      observer.extractFrom upper (max observer.filter.minSeq sinceSeq) []
        (loadEntries (fileText .default [.dict members])) := by
    unfold LedgerObserver.extractWith verifiedVerdict
    cases observer.unsafeUnverified <;> rfl
  rw [read, loadEntries_single json]

theorem LedgerObserver.Unaffected.single (unaffected : observer.Unaffected upper builtins repr)
    {members' : Members} (json : IsJson (.dict members)) (json' : IsJson (.dict members'))
    (alike : observer.redaction.Alike (.dict members) (.dict members')) (sinceSeq : Int)
    (fmt : Format) :
    exportFromLedger builtins repr upper observer fmt verifiedVerdict
        (some (fileText .default [.dict members])) sinceSeq =
      exportFromLedger builtins repr upper observer fmt verifiedVerdict
        (some (fileText .default [.dict members'])) sinceSeq := by
  refine (unaffected _ _ _ _ ?_).1 fmt
  rw [loadEntries_single json, loadEntries_single json']
  exact .cons alike .nil

/-- An entry without a number that can be compared makes an extraction raise. -/
theorem seq_shown (unaffected : observer.Unaffected upper builtins repr) :
    observer.redaction.redacts "seq" = false := by
  rw [← Bool.not_eq_true]
  intro isRedacted
  have json : ∀ v, IsJson v → IsJson (.dict (Members.set (Str.lit "seq") v [])) :=
    fun v jsonValue => IsJson.set (Str.joinSurrogates_lit _) jsonValue ⟨List.nodup_nil, trivial⟩
  have exported := unaffected.single (json (.int 1) trivial) (json .null trivial)
    (alike_set isRedacted (.int 1) .null []) 1 .raw
  have low : (1 : Int) ≤ max observer.filter.minSeq 1 := le_max_right _ _
  have passed : seqAtMost (.dict (Members.set (Str.lit "seq") (.int 1) []))
      (max observer.filter.minSeq 1) = .ok true := by
    rw [seqAtMost, Value.isDict, if_pos rfl, getD_set_self]
    simp only [atMost, Value.number?, Number.lt, Number.eqv, Except.ok.injEq, Bool.or_eq_true,
      decide_eq_true_eq, Int.cast_lt, Int.cast_inj]
    exact low.lt_or_eq
  have raised : seqAtMost (.dict (Members.set (Str.lit "seq") .null []))
      (max observer.filter.minSeq 1) = .error .typeError := by
    rw [seqAtMost, Value.isDict, if_pos rfl, getD_set_self]
    rfl
  unfold exportFromLedger at exported
  rw [extractWith_single (json (.int 1) trivial), extractWith_single (json .null trivial)]
    at exported
  unfold LedgerObserver.extractFrom at exported
  rw [passed, raised] at exported
  cases congrArg Prod.snd exported

/-! An accepted entry stays accepted when a field is set that the filter does not read. -/

/-- What `matches` reads for an absent field. -/
def filterDefault (name : String) : Value :=
  if name = "classification" then Value.lit "UNCLASSIFIED" else Value.lit ""

theorem matches_set_own {name : String} (exported : name ∈ exportedFields) :
    observer.filter.matches upper (.dict (Members.set (Str.lit name)
      ((Value.dict members).getD name (filterDefault name)) members)) =
    observer.filter.matches upper (.dict members) := by
  have reads : ∀ other default, (name = other → default = filterDefault name) →
      (Value.dict (Members.set (Str.lit name)
        ((Value.dict members).getD name (filterDefault name)) members)).getD other default =
      (Value.dict members).getD other default := by
    intro other default own
    by_cases same : name = other
    · rw [own same, ← same, getD_set_self]
    · exact getD_set_other same _ _
  have notSeq : name ≠ "seq" := by
    rintro rfl
    simp [exportedFields] at exported
  have notCaveats : name ≠ "caveats" := by
    rintro rfl
    simp [exportedFields] at exported
  unfold ObserverFilter.matches entryRank
  rw [reads "decision", reads "approval_mode", reads "policy_id", reads "classification",
    reads "caveats", reads "action", reads "seq"]
  · rfl
  · exact fun same => absurd same notSeq
  · rintro rfl
    rfl
  · exact fun same => absurd same notCaveats
  · rintro rfl
    rfl
  · rintro rfl
    rfl
  · rintro rfl
    rfl
  · rintro rfl
    rfl

theorem matches_set (free : observer.Unrestricted upper) {name : String}
    (exported : name ∈ exportedFields) (isRedacted : observer.redaction.redacts name = true)
    (json : IsJson (.dict members)) (accepted : observer.accepts upper (.dict members) = true)
    (text : String) :
    observer.filter.matches upper (.dict (Members.set (Str.lit name) (Value.lit text) members)) =
      .ok true := by
  have ownJson : IsJson ((Value.dict members).getD name (filterDefault name)) := by
    rw [Value.getD, Value.get?_dict]
    cases found : Members.lookup (Str.lit name) members with
    | none =>
        rw [Option.getD_none, filterDefault]
        split <;> exact Str.joinSurrogates_lit _
    | some value =>
        exact (isJsonMembers_iff.mp json.2 _ _ (Members.mem_of_lookup found)).2
  have joined := Str.joinSurrogates_lit name
  have textJson : IsJson (Value.lit text) := Str.joinSurrogates_lit text
  rw [← free _ _ (IsJson.set joined ownJson json) (IsJson.set joined textJson json)
    (alike_set isRedacted _ _ members), matches_set_own exported]
  exact (observer.accepts_iff upper).mp accepted

theorem seqAtMost_of_matches {entry : Value}
    (matched : observer.filter.matches upper entry = .ok true) :
    seqAtMost entry observer.filter.minSeq = .ok false := by
  have checks := allOf_eq_true matched
  have isDict := checks _ List.mem_cons_self
  have isAbove := checks ((atMost (entry.getD "seq" (.int 0)) observer.filter.minSeq).map not)
    (by simp)
  rw [seqAtMost]
  cases entry with
  | dict members =>
      rw [Value.isDict, if_pos rfl]
      cases compared : atMost ((Value.dict members).getD "seq" (.int 0))
          observer.filter.minSeq with
      | error raised =>
          rw [compared] at isAbove
          cases isAbove
      | ok isAtMost =>
          rw [compared] at isAbove
          cases isAtMost with
          | true => cases isAbove
          | false => rfl
  | null | bool | int | float | str | list => cases isDict

theorem exportFromLedger_single (json : IsJson (.dict members))
    (matched : observer.filter.matches upper (.dict members) = .ok true) (fmt : Format) :
    (exportFromLedger builtins repr upper observer fmt verifiedVerdict
        (some (fileText .default [.dict members])) observer.filter.minSeq).1 =
      (writeRecords builtins repr fmt [recordOf observer.redaction [] (.dict members)]).1 := by
  have extracted : observer.extractFrom upper observer.filter.minSeq [] [.dict members] =
      .ok [recordOf observer.redaction [] (.dict members)] := by
    unfold LedgerObserver.extractFrom LedgerObserver.contextOf
    rw [seqAtMost_of_matches matched, matched, List.drop_nil]
    rfl
  unfold exportFromLedger
  rw [extractWith_single json, max_self, extracted]

/-! The texts of an alpaca record that hold an attribute. -/

/-- The document of a record without context. -/
def alpacaDocument (builtins : Builtins) (repr : Value → Str) (record : EvidenceRecord) : Value :=
  .object [
    ("instruction", .str (record.instruction builtins repr)),
    ("input", .str (Str.lit "Prior actions: " ++ Str.lit "(start)" ++
      Str.lit "\nClassification: " ++ builtins.str record.classification)),
    ("output", .str (record.outcome builtins)),
    ("metadata", .object [
      ("seq", record.seq),
      ("policy_id", record.policyId),
      ("classification", record.classification),
      ("approval_mode", record.approvalMode),
      ("ts", record.ts)])]

theorem apply_alpaca_start {record : EvidenceRecord} (first : record.contextBefore = []) :
    Format.alpaca.apply builtins repr record = .ok (alpacaDocument builtins repr record) := by
  change record.toAlpaca builtins repr = _
  rw [EvidenceRecord.toAlpaca, EvidenceRecord.priorActions, first]
  rfl

theorem writeRecords_start {record : EvidenceRecord} (first : record.contextBefore = []) :
    (writeRecords builtins repr .alpaca [record]).1 =
      lineText .default (alpacaDocument builtins repr record) := by
  rw [writeRecords, apply_alpaca_start first]
  exact List.append_nil _

/-- What the text of an alpaca record determines. -/
structure AlpacaAlike (builtins : Builtins) (repr : Value → Str)
    (first second : EvidenceRecord) : Prop where
  instruction : Str.joinSurrogates (first.instruction builtins repr) =
    Str.joinSurrogates (second.instruction builtins repr)
  outcome : Str.joinSurrogates (first.outcome builtins) =
    Str.joinSurrogates (second.outcome builtins)
  policyId : reread first.policyId = reread second.policyId
  classification : reread first.classification = reread second.classification
  approvalMode : reread first.approvalMode = reread second.approvalMode
  ts : reread first.ts = reread second.ts

theorem alpacaAlike_of_render {first second : EvidenceRecord}
    (same : render .default (alpacaDocument builtins repr first) =
      render .default (alpacaDocument builtins repr second)) :
    AlpacaAlike builtins repr first second := by
  have scanned := reread_eq_of_render_eq .default rfl same
  simp only [alpacaDocument, Value.object, List.map_cons, List.map_nil, reread, rereadMembers,
    Value.dict.injEq, List.cons.injEq, Prod.mk.injEq, Value.str.injEq, true_and, and_true]
    at scanned
  obtain ⟨instruction, input, outcome, seq, policyId, classification, approvalMode, ts⟩ := scanned
  exact ⟨instruction, outcome, policyId, classification, approvalMode, ts⟩

theorem alpacaAlike_of_unaffected (free : observer.Unrestricted upper)
    (unaffected : observer.Unaffected upper builtins repr) {name : String}
    (exported : name ∈ exportedFields) (isRedacted : observer.redaction.redacts name = true)
    (json : IsJson (.dict members)) (accepted : observer.accepts upper (.dict members) = true) :
    AlpacaAlike builtins repr
      (recordOf observer.redaction [] (.dict (Members.set (Str.lit name) (Value.lit "") members)))
      (recordOf observer.redaction []
        (.dict (Members.set (Str.lit name) (Value.lit "x") members))) := by
  have setJson : ∀ text, IsJson (.dict (Members.set (Str.lit name) (Value.lit text) members)) := by
    intro text
    have textJson : IsJson (Value.lit text) := Str.joinSurrogates_lit text
    exact IsJson.set (Str.joinSurrogates_lit name) textJson json
  have matched := matches_set free exported isRedacted json accepted
  have same := congrArg Prod.fst (unaffected.single (setJson "") (setJson "x")
    (alike_set isRedacted _ _ members) observer.filter.minSeq .alpaca)
  rw [exportFromLedger_single (setJson "") (matched ""),
    exportFromLedger_single (setJson "x") (matched "x"), writeRecords_start rfl,
    writeRecords_start rfl] at same
  exact alpacaAlike_of_render (List.append_cancel_right same)

theorem scalar_lit (s : String) : ∀ c ∈ Str.lit s, c.isSurrogate = false := by
  intro c member
  obtain ⟨d, -, isChar⟩ := List.mem_map.mp member
  rw [← isChar]
  exact Str.ofChar_not_surrogate d

theorem reread_lit_ne : reread (Value.lit "") ≠ reread (Value.lit "x") := by
  intro same
  rw [Value.lit, Value.lit, reread, reread, Str.joinSurrogates_lit, Str.joinSurrogates_lit] at same
  exact absurd ((Str.lit_inj _ _).mp (Value.str.inj same)) (by decide)

/-- A redacted field that is read changes what is written of an accepted entry. -/
theorem fields_shown (lawful : builtins.Lawful) (free : observer.Unrestricted upper)
    (unaffected : observer.Unaffected upper builtins repr) (json : IsJson (.dict members))
    (accepted : observer.accepts upper (.dict members) = true) :
    ∀ name ∈ exportedFields, observer.redaction.redacts name = false := by
  intro name exported
  rw [← Bool.not_eq_true]
  intro isRedacted
  have alike := alpacaAlike_of_unaffected free unaffected exported isRedacted json accepted
  have joins : ∀ text rest, Str.joinSurrogates (Str.lit text ++ rest) =
      Str.lit text ++ Str.joinSurrogates rest :=
    fun text rest => Str.joinSurrogates_scalar_append (scalar_lit text) rest
  simp only [exportedFields, List.mem_cons, List.not_mem_nil, or_false] at exported
  rcases exported with isName | isName | isName | isName | isName | isName | isName <;>
    rw [isName] at alike
  · -- `agent_id` follows the first words of the instruction
    have same := alike.instruction
    simp only [EvidenceRecord.instruction, recordOf, getD_set_self, Value.lit, lawful.str_str,
      List.append_assoc, joins] at same
    have heads : some (CodePoint.ofChar ' ') = some (CodePoint.ofChar 'x') :=
      congrArg List.head? (List.append_cancel_left same)
    exact absurd heads (by decide)
  · -- `action` comes first
    have same := alike.outcome
    simp only [EvidenceRecord.outcome, recordOf, getD_set_self, Value.lit, lawful.str_str,
      List.append_assoc, joins] at same
    have heads : some (CodePoint.ofChar ':') = some (CodePoint.ofChar 'x') :=
      congrArg List.head? same
    exact absurd heads (by decide)
  · -- `result` comes last
    have same := alike.outcome
    simp only [EvidenceRecord.outcome, recordOf, getD_set_self, Value.lit, lawful.str_str,
      Str.joinSurrogates_append_scalar _ (scalar_lit _)] at same
    rw [getD_set_other (by decide), getD_set_other (by decide)] at same
    exact absurd ((Str.lit_inj _ _).mp (List.append_cancel_left same)) (by decide)
  · exact reread_lit_ne (by simpa only [recordOf, getD_set_self] using alike.ts)
  · exact reread_lit_ne (by simpa only [recordOf, getD_set_self] using alike.policyId)
  · exact reread_lit_ne (by simpa only [recordOf, getD_set_self] using alike.classification)
  · exact reread_lit_ne (by simpa only [recordOf, getD_set_self] using alike.approvalMode)

/-- With a filter that restricts no redacted field, no redacted value influences an export
if and only if `seq` is not redacted, and no exported field is unless the filter accepts
nothing. -/
theorem unaffected_iff (lawful : builtins.Lawful) (free : observer.Unrestricted upper) :
    observer.Unaffected upper builtins repr ↔ Covered upper observer := by
  constructor
  · intro unaffected
    refine ⟨seq_shown unaffected, ?_⟩
    by_cases silent : observer.Silent upper
    · exact .inl silent
    · right
      obtain ⟨entry, heard⟩ := not_forall.mp silent
      obtain ⟨json, accepted⟩ := Classical.not_imp.mp heard
      rw [Bool.not_eq_false] at accepted
      cases entry with
      | dict members => exact fields_shown lawful free unaffected json accepted
      | null | bool | int | float | str | list =>
          cases (observer.accepts_iff upper).mp accepted
  · exact unaffected_of_covered free

end Reading

/-! Filters by the fields they read. -/

def filterFields : List String :=
  ["decision", "approval_mode", "policy_id", "classification", "caveats", "action", "seq"]

theorem unrestricted_of_shown {upper : Str → Str} {observer : LedgerObserver}
    (shown : ∀ name ∈ filterFields, observer.redaction.redacts name = false) :
    observer.Unrestricted upper := by
  intro first second _ _ alike
  have same : ∀ name ∈ filterFields, ∀ default,
      first.getD name default = second.getD name default :=
    fun name isRead default => getD_of_alike alike (shown name isRead) default
  unfold ObserverFilter.matches entryRank
  rw [isDict_of_alike alike, same "decision" (by simp [filterFields]),
    same "approval_mode" (by simp [filterFields]), same "policy_id" (by simp [filterFields]),
    same "classification" (by simp [filterFields]), same "caveats" (by simp [filterFields]),
    same "action" (by simp [filterFields]), same "seq" (by simp [filterFields])]

def printedBuiltins : Builtins where
  isalnum := asciiBuiltins.isalnum
  str
    | .str s => s
    | .int n => Str.ofText (intText n)
    | _ => []
  int := asciiBuiltins.int

theorem printedBuiltins_lawful : printedBuiltins.Lawful where
  isalnum_slash := asciiBuiltins_lawful.isalnum_slash
  str_str _ := rfl
  int_int := asciiBuiltins_lawful.int_int

def quoted (value : Value) : Str :=
  Str.lit "'" ++ printedBuiltins.str value ++ Str.lit "'"

/-- An observer of allowed actions that masks one field. -/
def maskingObserver (name : String) : LedgerObserver where
  filter := ⟨[Str.lit "allow"], [], .secret, [], [], 0, []⟩
  redaction := ⟨[], [(Str.lit name, Str.lit "[REDACTED]")]⟩
  contextWindow := 3
  unsafeUnverified := false

theorem unaffected_iff_operatorId :
    (maskingObserver "operator_id").Unaffected id printedBuiltins quoted ↔
      Covered id (maskingObserver "operator_id") :=
  unaffected_iff printedBuiltins_lawful (unrestricted_of_shown (by decide))

def allowedEntry : Members :=
  Members.of [("seq", .int 1), ("decision", Value.lit "allow"), ("result", Value.lit "secret")]

/-- A mask on `result` is of no use: the result is in what is exported. -/
theorem masked_result_exported : (maskingObserver "result").Unrestricted id ∧
    ¬ (maskingObserver "result").Unaffected id printedBuiltins quoted := by
  have free : (maskingObserver "result").Unrestricted id := unrestricted_of_shown (by decide)
  refine ⟨free, ?_⟩
  intro unaffected
  have json : IsJson (.dict allowedEntry) :=
    isJson_object (by decide) (by simp [IsJson, Value.lit])
  have accepted : (maskingObserver "result").accepts id (.dict allowedEntry) = true := by
    decide +kernel
  have shown := fields_shown printedBuiltins_lawful free unaffected json accepted "result" (by
    simp [exportedFields])
  exact absurd shown (by decide)

end SelfConnect.Observer
