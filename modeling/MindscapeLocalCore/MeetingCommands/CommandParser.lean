import Mathlib.Data.List.Basic
import MindscapeLocalCore.Library.PythonText

/-!
The grammar of meeting commands: a leading slash verb, object mentions with role hints, and the
tokens that begin with `@` but are no mention.
-/

namespace MindscapeLocalCore.MeetingCommands.CommandParser

open Library.PythonText Library.TextScan Library.TextWords

/-- The characters of `\w`. -/
structure Platform where
  isWord : Char → Bool

/-- The groups of a match of `OBJECT_MENTION_RE`. -/
structure Mention where
  owner : List Char
  kind : List Char
  objectId : List Char

/-- `ObjectRef`, as a mention gives it. -/
structure ObjectRef where
  uri : List Char
  ownerPack : List Char
  objectKind : List Char
  objectId : List Char
  workspaceId : String

structure ObjectRoleEntry where
  role : String
  ref : ObjectRef

structure SelectionResolveError where
  code : String
  message : List Char

/-- `MeetingCommandParseResult`; of the requested action the verb is set. -/
structure MeetingCommandParseResult where
  normalizedIntentText : List Char
  contextObjects : List ObjectRoleEntry
  requestedAction : Option (List Char)
  unresolvedMentions : List (List Char)
  errors : List SelectionResolveError

/-- `ObjectRuntimeRole`, in the order of `ROLE_HINT_RE`. -/
def objectRuntimeRoles : List String :=
  ["source", "target", "baseline", "constraint", "evidence", "character", "output", "meeting",
    "session", "node"]

def defaultRoleByVerb : List (String × String) :=
  [("stage", "target"), ("review", "target"), ("promote", "target"), ("attach", "source"),
    ("recommend", "source"), ("expand", "source"), ("preview", "source")]

/-- The characters that are trimmed after a mention. -/
def trailing : List Char := ['.', ',', ')']

variable (p : Platform)

/-! ### Patterns -/

/-- `[A-Za-z0-9_-]` -/
def isNameChar (c : Char) : Bool := c.isAlphanum || c = '_' || c = '-'

/-- `[^\s,;]` -/
def isIdChar (c : Char) : Bool := !isSpace c && c ≠ ',' && c ≠ ';'

/-- `[\w./:-]` -/
def isTokenChar (c : Char) : Bool := p.isWord c || c ∈ ['.', '/', ':', '-']

def Mention.group (mention : Mention) : List Char :=
  '@' :: (mention.owner ++ '.' :: (mention.kind ++ ':' :: mention.objectId))

/-- `OBJECT_MENTION_RE` at the beginning of a text. -/
def readMention : List Char → Option (Mention × ℕ)
  | '@' :: text =>
      match run isNameChar text with
      | some (owner, '.' :: afterOwner) =>
          match run isNameChar afterOwner with
          | some (kind, ':' :: afterKind) =>
              (run isIdChar afterKind).map fun (objectId, _) =>
                (⟨owner, kind, objectId⟩, (Mention.group ⟨owner, kind, objectId⟩).length)
          | _ => none
      | _ => none
  | _ => none

/-- `RAW_MENTION_RE` at the beginning of a text. -/
def readToken : List Char → Option (List Char × ℕ)
  | '@' :: text => (run (isTokenChar p) text).map fun (token, _) => ('@' :: token, token.length + 1)
  | _ => none

/-- `OBJECT_MENTION_RE.finditer(text)` -/
def mentionsIn (text : List Char) : List (Found Mention) := finditer readMention 0 0 text

/-- `RAW_MENTION_RE.finditer(text)` -/
def tokensIn (text : List Char) : List (Found (List Char)) := finditer (readToken p) 0 0 text

/-- `\b` between two characters, where there are any. -/
def isBoundary (before after : Option Char) : Bool := before.any p.isWord != after.any p.isWord

/-- `SLASH_VERB_RE.match(text)`: of the names that end at a boundary the longest. -/
def slashVerb (text : List Char) : Option (List Char) :=
  match text.dropWhile isSpace with
  | '/' :: c :: rest =>
      if c.isAlpha then
        let name := c :: rest.takeWhile isNameChar
        ((List.range name.length).reverse.find? fun n =>
          isBoundary p name[n]? (c :: rest)[n + 1]?).map fun n => name.take (n + 1)
      else none
  | _ => none

/-- `ROLE_HINT_RE.match(tail)`: the role as it is written. -/
def roleHint (tail : List Char) : Option (List Char) :=
  ["as", "for"].findSome? fun word => objectRuntimeRoles.findSome? fun role =>
    match matchPieces sameLetter
        (.someSpaces :: literal word ++ .someSpaces :: literal role) tail with
    | some rest =>
        let matched := tail.take (tail.length - rest.length)
        if isBoundary p matched.getLast? rest.head? then
          some (matched.drop (matched.length - role.length))
        else none
    | none => none

/-! ### Mentions -/

def roleAfterMatch (intentText : List Char) (endIndex : ℕ) (verb : Option (List Char)) : String :=
  match roleHint p ((intentText.drop endIndex).take 48) with
  | some role => String.ofList (role.flatMap lowerChar)
  | none =>
      let before := ((intentText.take endIndex).drop (endIndex - 96)).flatMap lowerChar
      let trimmed := (before.reverse.dropWhile isSpace).reverse
      if trimmed.drop (trimmed.length - 4) = " for".toList then "target"
      else (defaultRoleByVerb.lookup (String.ofList (verb.getD []))).getD "source"

def Mention.trimmedId (mention : Mention) : List Char := rstrip trailing mention.objectId

def objectRefFromMatch (mention : Mention) (workspaceId : String) : ObjectRef where
  uri := "mindscape://".toList ++ mention.owner ++ '/' :: (mention.kind ++ '/' :: mention.trimmedId)
  ownerPack := mention.owner
  objectKind := mention.kind
  objectId := mention.trimmedId
  workspaceId := workspaceId

/-- One turn of the loop over the mentions: no entry for a URI that was seen. A role that is none
of the roles is refused. -/
def addMention (normalized : List Char) (verb : Option (List Char)) (workspaceId : String)
    (entries : List ObjectRoleEntry) (found : Found Mention) : Option (List ObjectRoleEntry) :=
  let ref := objectRefFromMatch found.value workspaceId
  if ref.uri ∈ entries.map (·.ref.uri) then some entries
  else
    let role := roleAfterMatch p normalized found.stop verb
    if role ∈ objectRuntimeRoles then some (entries ++ [⟨role, ref⟩]) else none

def parsedTokens (normalized : List Char) : List (List Char) :=
  (mentionsIn normalized).map fun found => rstrip trailing found.value.group

def invalidCommandReference (token : List Char) : SelectionResolveError where
  code := "invalid_command_reference"
  message := "Unsupported meeting command mention '".toList ++ token ++
    "'. Use @owner.kind:id.".toList

def unresolvedTokens (normalized : List Char) : List (List Char) :=
  ((tokensIn p normalized).map fun found => rstrip trailing found.value).filter
    (· ∉ parsedTokens normalized)

/-- `parse_meeting_command_text`; none where a model refuses a value. -/
def parseMeetingCommandText (intentText : List Char) (workspaceId : String) :
    Option MeetingCommandParseResult := do
  let normalized := collapse intentText
  let verb := (slashVerb p normalized).map (·.flatMap lowerChar)
  let entries ← (mentionsIn normalized).foldlM (addMention p normalized verb workspaceId) []
  let unresolved := unresolvedTokens p normalized
  return ⟨normalized, entries, verb, unresolved, unresolved.map invalidCommandReference⟩

end MindscapeLocalCore.MeetingCommands.CommandParser

/-!
How the mentions of a meeting command are classified: as context objects, or as tokens that are
reported.
-/

namespace MindscapeLocalCore.MeetingCommands.MentionClasses

open Library.TextScan Library.TextWords CommandParser

variable (p : Platform)

def BeginsMention (normalized : List Char) (token : Found (List Char)) : Prop :=
  ∃ mention ∈ mentionsIn normalized, mention.start = token.start

instance (normalized : List Char) (token : Found (List Char)) :
    Decidable (BeginsMention normalized token) :=
  inferInstanceAs (Decidable (∃ mention ∈ mentionsIn normalized, mention.start = token.start))

def firstBy {α β : Type} [DecidableEq β] (key : α → β) : List α → List α
  | [] => []
  | item :: items => item :: (firstBy key items).filter fun other => key other ≠ key item

def mentionUri (mention : Mention) : List Char := (objectRefFromMatch mention "").uri

/-- Every mention is a context object and no error, every other token is reported once, and the
result is that of the normalized text. -/
structure Classified (intentText : List Char) (workspaceId : String)
    (result : MeetingCommandParseResult) : Prop where
  returned : parseMeetingCommandText p intentText workspaceId = some result
  represented : ∀ found ∈ mentionsIn result.normalizedIntentText,
    ∃ entry ∈ result.contextObjects, entry.ref.ownerPack = found.value.owner ∧
      entry.ref.objectKind = found.value.kind ∧ entry.ref.objectId = found.value.trimmedId
  unresolved : result.unresolvedMentions =
    ((tokensIn p result.normalizedIntentText).filter fun token =>
      ¬ BeginsMention result.normalizedIntentText token).map fun token =>
        rstrip trailing token.value
  errors : result.errors = result.unresolvedMentions.map invalidCommandReference
  distinct : (result.contextObjects.map (·.ref.uri)).Nodup
  ordered : result.contextObjects.map (·.ref.uri) =
    (firstBy (fun found => mentionUri found.value) (mentionsIn result.normalizedIntentText)).map
      fun found => mentionUri found.value
  again : parseMeetingCommandText p result.normalizedIntentText workspaceId = some result

def ClassifiedOnce (intentText : List Char) (workspaceId : String) : Prop :=
  ∃ result, Classified p intentText workspaceId result

/-- The first mention of a URI has one of the roles after it, or none of the words of a role. -/
def RolesKnown (normalized : List Char) : Prop :=
  ∀ found ∈ firstBy (fun found => mentionUri found.value) (mentionsIn normalized),
    roleAfterMatch p normalized found.stop ((slashVerb p normalized).map (·.flatMap lowerChar)) ∈
      objectRuntimeRoles

def TokensAgree (normalized : List Char) : Prop :=
  ∀ token ∈ tokensIn p normalized, BeginsMention normalized token ↔
    rstrip trailing token.value ∈ parsedTokens normalized

instance (normalized : List Char) : Decidable (RolesKnown p normalized) :=
  inferInstanceAs (Decidable (∀ found ∈ _, _ ∈ objectRuntimeRoles))

instance (normalized : List Char) : Decidable (TokensAgree p normalized) :=
  inferInstanceAs (Decidable (∀ token ∈ tokensIn p normalized, _ ↔ _))

variable {p} {normalized : List Char} {workspaceId : String} {verb : Option (List Char)}
  {entries : List ObjectRoleEntry} {mention mention' : Mention}

/-! ### Lists -/

section Lists

variable {α β : Type} [DecidableEq β] {key : α → β} {items : List α}

theorem firstBy_concat (item : α) :
    firstBy key (items ++ [item]) =
      if key item ∈ items.map key then firstBy key items else firstBy key items ++ [item] := by
  induction items with
  | nil => rfl
  | cons head items ih =>
      rw [List.cons_append, firstBy, ih, List.map_cons]
      by_cases hmem : key item ∈ items.map key
      · rw [if_pos hmem, if_pos (List.mem_cons_of_mem _ hmem)]
        rfl
      · rw [if_neg hmem, List.filter_append]
        by_cases hhead : key item = key head
        · have hnone : [item].filter (fun other => decide (key other ≠ key head)) = [] := by
            simp [hhead]
          rw [hnone, List.append_nil, if_pos (hhead ▸ List.mem_cons_self)]
          rfl
        · have hsome : [item].filter (fun other => decide (key other ≠ key head)) = [item] := by
            simp [hhead]
          rw [hsome, if_neg fun h => (List.mem_cons.mp h).elim hhead hmem]
          rfl

theorem nodup_map_firstBy : ((firstBy key items).map key).Nodup := by
  induction items with
  | nil => exact List.nodup_nil
  | cons item items ih =>
      rw [firstBy, List.map_cons, List.nodup_cons]
      constructor
      · intro hmem
        obtain ⟨other, hother, hsame⟩ := List.mem_map.mp hmem
        exact of_decide_eq_true (List.mem_filter.mp hother).2 hsame
      · exact ih.sublist (List.filter_sublist.map key)

theorem mem_map_firstBy {value : β} :
    value ∈ (firstBy key items).map key ↔ value ∈ items.map key := by
  induction items with
  | nil => rfl
  | cons item items ih =>
      rw [firstBy, List.map_cons, List.map_cons, List.mem_cons, List.mem_cons, ← ih]
      by_cases hvalue : value = key item
      · exact iff_of_true (.inl hvalue) (.inl hvalue)
      · refine or_congr_right ?_
        rw [List.mem_map, List.mem_map]
        constructor
        · rintro ⟨other, hmem, rfl⟩
          exact ⟨other, (List.mem_filter.mp hmem).1, rfl⟩
        · rintro ⟨other, hmem, rfl⟩
          exact ⟨other, List.mem_filter.mpr ⟨hmem, decide_eq_true hvalue⟩, rfl⟩

theorem mem_of_mem_firstBy {item : α} (h : item ∈ firstBy key items) : item ∈ items := by
  induction items with
  | nil => exact h
  | cons head items ih =>
      rw [firstBy] at h
      rcases List.mem_cons.mp h with rfl | h
      · exact List.mem_cons_self
      · exact List.mem_cons_of_mem _ (ih (List.mem_filter.mp h).1)

theorem filter_map_eq_iff {values : α → β} {kept : β → Prop} [DecidablePred kept] {other : α → Prop}
    [DecidablePred other] :
    (items.map values).filter (fun value => kept value) =
        (items.filter fun item => other item).map values ↔
      ∀ item ∈ items, kept (values item) ↔ other item := by
  constructor
  · intro h item hmem
    have hcount := congrArg (List.count (values item)) h
    by_cases hkept : kept (values item)
    · refine iff_of_true hkept ?_
      -- Of the items with this value as many are left on the one side as on the other: all.
      rw [List.count_filter (p := fun value => decide (kept value)) (decide_eq_true hkept),
        List.count_eq_countP, List.count_eq_countP, List.countP_map, List.countP_map, List.countP_eq_length_filter,
        List.countP_eq_length_filter, List.filter_filter] at hcount
      have hall : ((items.filter ((· == values item) ∘ values)).filter fun item =>
          decide (other item)).length = (items.filter ((· == values item) ∘ values)).length := by
        rw [List.filter_filter, hcount]
        refine congrArg List.length (List.filter_congr fun _ _ => Bool.and_comm _ _)
      rw [List.length_filter_eq_length_iff] at hall
      exact of_decide_eq_true (hall item (List.mem_filter.mpr ⟨hmem, beq_self_eq_true _⟩))
    · refine iff_of_false hkept fun hother => ?_
      have hzero : List.count (values item) ((items.map values).filter fun value => kept value) =
          0 := by
        rw [List.count_eq_zero]
        intro hin
        exact hkept (of_decide_eq_true (List.mem_filter.mp hin).2)
      rw [hzero] at hcount
      refine List.count_eq_zero.mp hcount.symm (List.mem_map_of_mem ?_)
      exact List.mem_filter.mpr ⟨hmem, decide_eq_true hother⟩
  · intro h
    rw [List.filter_map]
    refine congrArg (List.map values) (List.filter_congr fun item hmem => ?_)
    exact decide_eq_decide.mpr (h item hmem)

end Lists

/-! ### URIs -/

theorem uri_objectRefFromMatch : (objectRefFromMatch mention workspaceId).uri = mentionUri mention :=
  rfl

theorem no_slash {text : List Char} {length : ℕ} (h : readMention text = some (mention, length)) :
    '/' ∉ mention.owner ∧ '/' ∉ mention.kind := by
  rw [readMention.eq_def] at h
  split at h
  · rename_i afterAt
    cases howner : run isNameChar afterAt with
    | none =>
        rw [howner] at h
        cases h
    | some first =>
        rw [howner] at h
        obtain ⟨owner, afterOwner⟩ := first
        dsimp only at h
        split at h
        · rename_i hfirst
          obtain ⟨rfl, rfl⟩ := Prod.mk.inj (Option.some.inj hfirst)
          split at h
          · rename_i hkind
            obtain ⟨pair, -, hpair⟩ := Option.map_eq_some_iff.mp h
            obtain ⟨rfl, -⟩ := Prod.mk.inj hpair
            exact ⟨fun hmem => absurd ((eq_of_run howner).2.2 _ hmem) (by decide),
              fun hmem => absurd ((eq_of_run hkind).2.2 _ hmem) (by decide)⟩
          · cases h
        · cases h
  · cases h

theorem no_slash_of_mem {found : Found Mention} (h : found ∈ mentionsIn normalized) :
    '/' ∉ found.value.owner ∧ '/' ∉ found.value.kind := by
  obtain ⟨rest, length, hread⟩ := exists_of_mem_finditer h
  exact no_slash hread

theorem mentionUri_inj (h : '/' ∉ mention.owner ∧ '/' ∉ mention.kind)
    (h' : '/' ∉ mention'.owner ∧ '/' ∉ mention'.kind)
    (hsame : mentionUri mention = mentionUri mention') :
    mention.owner = mention'.owner ∧ mention.kind = mention'.kind ∧
      mention.trimmedId = mention'.trimmedId := by
  have hcancel : ∀ scheme rest rest' : List Char,
      scheme ++ mention.owner ++ rest = scheme ++ mention'.owner ++ rest' →
        mention.owner ++ rest = mention'.owner ++ rest' := by
    intro scheme rest rest' h
    rw [List.append_assoc, List.append_assoc] at h
    exact List.append_cancel_left h
  have hrest := hcancel "mindscape://".toList _ _ hsame
  obtain ⟨howner, hkinds⟩ := Library.TextParts.append_separator_inj h.1 h'.1 hrest
  obtain ⟨hkind, hid⟩ := Library.TextParts.append_separator_inj h.2 h'.2 hkinds
  exact ⟨howner, hkind, hid⟩

/-! ### Entries -/

def entryOf (p : Platform) (normalized : List Char) (verb : Option (List Char))
    (workspaceId : String) (found : Found Mention) : ObjectRoleEntry :=
  ⟨roleAfterMatch p normalized found.stop verb, objectRefFromMatch found.value workspaceId⟩

theorem map_uri_entryOf (found : List (Found Mention)) :
    (found.map (entryOf p normalized verb workspaceId)).map (·.ref.uri) =
      found.map fun found => mentionUri found.value := by
  rw [List.map_map]
  rfl

theorem foldlM_addMention (mentions : List (Found Mention)) :
    ((∀ found ∈ firstBy (fun found => mentionUri found.value) mentions,
        roleAfterMatch p normalized found.stop verb ∈ objectRuntimeRoles) →
      mentions.foldlM (addMention p normalized verb workspaceId) [] =
        some ((firstBy (fun found => mentionUri found.value) mentions).map
          (entryOf p normalized verb workspaceId))) ∧
    ((¬ ∀ found ∈ firstBy (fun found => mentionUri found.value) mentions,
        roleAfterMatch p normalized found.stop verb ∈ objectRuntimeRoles) →
      mentions.foldlM (addMention p normalized verb workspaceId) [] = none) := by
  induction mentions using List.reverseRecOn with
  | nil => exact ⟨fun _ => rfl, fun h => absurd (fun _ hmem => absurd hmem List.not_mem_nil) h⟩
  | append_singleton mentions last ih =>
      rw [List.foldlM_append, firstBy_concat]
      by_cases hseen : mentionUri last.value ∈ mentions.map fun found => mentionUri found.value
      · rw [if_pos hseen]
        refine ⟨fun h => ?_, fun h => ?_⟩
        · rw [ih.1 h]
          show (addMention p normalized verb workspaceId _ last >>= fun entries => some entries) = _
          rw [addMention]
          dsimp only
          rw [uri_objectRefFromMatch, map_uri_entryOf, if_pos (mem_map_firstBy.mpr hseen)]
          rfl
        · rw [ih.2 h]
          rfl
      · rw [if_neg hseen]
        have hnew : mentionUri last.value ∉ (firstBy (fun found => mentionUri found.value)
            mentions).map fun found => mentionUri found.value :=
          fun hmem => hseen (mem_map_firstBy.mp hmem)
        have hall : (∀ found ∈ firstBy (fun found => mentionUri found.value) mentions ++ [last],
              roleAfterMatch p normalized found.stop verb ∈ objectRuntimeRoles) ↔
            (∀ found ∈ firstBy (fun found => mentionUri found.value) mentions,
              roleAfterMatch p normalized found.stop verb ∈ objectRuntimeRoles) ∧
            roleAfterMatch p normalized last.stop verb ∈ objectRuntimeRoles := by
          rw [List.forall_mem_append, List.forall_mem_singleton]
        have hstep : ∀ entries : List ObjectRoleEntry, entries.map (·.ref.uri) =
              (firstBy (fun found => mentionUri found.value) mentions).map
                (fun found => mentionUri found.value) →
            addMention p normalized verb workspaceId entries last =
              if roleAfterMatch p normalized last.stop verb ∈ objectRuntimeRoles then
                some (entries ++ [entryOf p normalized verb workspaceId last])
              else none := by
          intro entries huris
          rw [addMention]
          dsimp only
          rw [uri_objectRefFromMatch, huris, if_neg hnew]
          rfl
        rw [hall]
        refine ⟨fun ⟨hbefore, hlast⟩ => ?_, fun h => ?_⟩
        · rw [ih.1 hbefore]
          show (addMention p normalized verb workspaceId _ last >>= fun entries => some entries) = _
          rw [hstep _ (map_uri_entryOf _), if_pos hlast, List.map_append]
          rfl
        · by_cases hbefore : ∀ found ∈ firstBy (fun found => mentionUri found.value) mentions,
              roleAfterMatch p normalized found.stop verb ∈ objectRuntimeRoles
          · rw [ih.1 hbefore]
            show (addMention p normalized verb workspaceId _ last >>= fun entries => some entries) =
              none
            rw [hstep _ (map_uri_entryOf _), if_neg fun hlast => h ⟨hbefore, hlast⟩]
            rfl
          · rw [ih.2 hbefore]
            rfl

/-! ### Results -/

def resultOf (p : Platform) (normalized : List Char) (workspaceId : String) :
    MeetingCommandParseResult :=
  let verb := (slashVerb p normalized).map (·.flatMap lowerChar)
  { normalizedIntentText := normalized
    contextObjects := (firstBy (fun found => mentionUri found.value) (mentionsIn normalized)).map
      (entryOf p normalized verb workspaceId)
    requestedAction := verb
    unresolvedMentions := unresolvedTokens p normalized
    errors := (unresolvedTokens p normalized).map invalidCommandReference }

theorem parse_of_rolesKnown {intentText : List Char} (h : RolesKnown p (collapse intentText)) :
    parseMeetingCommandText p intentText workspaceId =
      some (resultOf p (collapse intentText) workspaceId) := by
  rw [parseMeetingCommandText]
  dsimp only
  rw [(foldlM_addMention _).1 h]
  rfl

theorem parse_of_not_rolesKnown {intentText : List Char}
    (h : ¬ RolesKnown p (collapse intentText)) :
    parseMeetingCommandText p intentText workspaceId = none := by
  rw [parseMeetingCommandText]
  dsimp only
  rw [(foldlM_addMention _).2 h]
  rfl

theorem unresolved_iff :
    unresolvedTokens p normalized = ((tokensIn p normalized).filter fun token =>
        ¬ BeginsMention normalized token).map (fun token => rstrip trailing token.value) ↔
      TokensAgree p normalized := by
  rw [unresolvedTokens, filter_map_eq_iff]
  refine forall₂_congr fun token _ => ?_
  rw [not_iff_not]
  exact Iff.comm

/-! ### A mention with another character -/

/-- The characters of `\w` in ASCII. -/
def asciiPlatform : Platform := ⟨fun c => c.isAlphanum || c = '_'⟩

end MindscapeLocalCore.MeetingCommands.MentionClasses
