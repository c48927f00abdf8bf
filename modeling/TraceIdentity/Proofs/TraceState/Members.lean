import TraceIdentity.Proofs.Text.Trim
import TraceIdentity.TraceState
/-!
# Reading a trace state member by member

Each member of a header is read on its own and gives one entry or none, so joined
headers give their entries one after the other. A limit keeps the first entries
only. Malformed members are not noticed at all, wherever they stand.
-/
namespace TraceIdentity.TraceState
open Text

/-- A member that gives no entry: it is blank, or has no `=`, or only blanks before it. -/
def Malformed (cs : List Char) : Prop :=
  Blank cs ∨ '=' ∉ cs ∨ ∃ key value, cs = key ++ '=' :: value ∧ Blank key

/-- The second list is the first one with malformed members put in anywhere. -/
inductive Padded : List String → List String → Prop where
  | nil : Padded [] []
  | keep (m : String) {ms ns : List String} : Padded ms ns → Padded (m :: ms) (m :: ns)
  | pad (m : String) {ms ns : List String} : ',' ∉ m.toList → Malformed m.toList → Padded ms ns →
    Padded ms (m :: ns)

/-- The state that is read without a limit: no header has more members than this. -/
def readAll (header : String) : TraceState :=
  parse header (header.length + 1)

/-- A header is read member by member, and a limit keeps the first entries that were read. -/
structure ReadByMembers (header : String) : Prop where
  unlimited : ∀ limit, header.length < limit → parse header limit = readAll header
  limited : ∀ limit, (parse header limit).entries = (readAll header).entries.take limit
  joined : ∀ rest, (readAll (header ++ "," ++ rest)).entries =
    (readAll header).entries ++ (readAll rest).entries
  padded : ∀ members more, header = ",".intercalate members → Padded members more →
    ∀ limit, parse (",".intercalate more) limit = parse header limit
  malformed : ',' ∉ header.toList → Malformed header.toList → (readAll header).entries = []
  wellFormed : ',' ∉ header.toList → ∀ key value, header.toList = key ++ '=' :: value →
    '=' ∉ key → ¬ Blank key →
      (readAll header).entries = [(String.ofList (trim key), String.ofList (trim value))]

theorem member?_of_equals_not_mem {cs : List Char} (h : '=' ∉ cs) : member? cs = none := by
  have hcut : cut '=' (trim cs) = none :=
    (cut_eq_none_iff _ _).mpr fun hm => h (mem_of_mem_trim hm)
  rw [member?, hcut]

/-- A member is split at its first `=`, and the blanks around it do not count. -/
theorem member?_append_cons {key : List Char} (hkey : '=' ∉ key) (value : List Char) :
    member? (key ++ '=' :: value) =
      if trim key = [] then none else some (String.ofList (trim key), String.ofList (trim value)) := by
  have hstart : '=' ∉ trimStart key := fun hm => hkey ((List.dropWhile_sublist _).subset hm)
  have hcut : cut '=' (trim (key ++ '=' :: value)) = some (trimStart key, trimEnd value) :=
    (cut_eq_some_iff _ _ _ _).mpr ⟨trim_append_cons isBlank_equals key value, hstart⟩
  rw [member?, hcut]
  simp only [trim_trimStart, trim_trimEnd]

theorem member?_of_malformed {cs : List Char} (h : Malformed cs) : member? cs = none := by
  obtain hblank | hunpaired | ⟨key, value, rfl, hkey⟩ := h
  · exact member?_of_trim_eq_nil (trim_of_blank hblank)
  · exact member?_of_equals_not_mem hunpaired
  · have hsplit : '=' ∉ key := fun hm => by simpa [isBlank_equals] using hkey _ hm
    rw [member?_append_cons hsplit, if_pos (trim_of_blank hkey)]

theorem entries_readAll (header : String) :
    (readAll header).entries = (splitOn ',' header.toList).filterMap member? := by
  rw [readAll, entries_parse]
  apply List.take_of_length_le
  have hmembers : (splitOn ',' header.toList).length ≤ header.length + 1 := by
    rw [length_splitOn, ← String.length_toList]
    exact Nat.succ_le_succ List.count_le_length
  exact Nat.le_trans (List.length_filterMap_le _ _) hmembers

theorem entries_parse_eq_take (header : String) (limit : Nat) :
    (parse header limit).entries = (readAll header).entries.take limit := by
  rw [entries_parse, entries_readAll]

theorem parse_of_length_lt {header : String} {limit : Nat} (h : header.length < limit) :
    parse header limit = readAll header := by
  have hall : (readAll header).entries.length ≤ header.length + 1 := size_parse_le header _
  have hentries := entries_parse_eq_take header limit
  rw [List.take_of_length_le (Nat.le_trans hall h)] at hentries
  exact congrArg mk hentries

theorem parse_congr {header other : String}
    (h : (readAll header).entries = (readAll other).entries) (limit : Nat) :
    parse header limit = parse other limit := by
  have hentries : (parse header limit).entries = (parse other limit).entries := by
    rw [entries_parse_eq_take, entries_parse_eq_take, h]
  exact congrArg mk hentries

theorem entries_readAll_append (header rest : String) :
    (readAll (header ++ "," ++ rest)).entries =
      (readAll header).entries ++ (readAll rest).entries := by
  have hjoin : (header ++ "," ++ rest).toList = header.toList ++ ',' :: rest.toList := by simp
  rw [entries_readAll, entries_readAll, entries_readAll, hjoin, splitOn_append,
    List.filterMap_append]

/-- Joined headers give their entries one after the other. -/
theorem entries_readAll_intercalate (members : List String) :
    (readAll (",".intercalate members)).entries =
      members.flatMap fun m => (readAll m).entries := by
  induction members with
  | nil => rfl
  | cons m ms ih =>
    cases ms with
    | nil =>
      have hsingle : ",".intercalate [m] = m := by simp
      rw [hsingle, List.flatMap_singleton]
    | cons n ns =>
      have hjoin : ",".intercalate (m :: n :: ns) = m ++ "," ++ ",".intercalate (n :: ns) := by
        simp
      rw [hjoin, entries_readAll_append, ih]
      rfl

theorem entries_readAll_of_not_mem {header : String} (h : ',' ∉ header.toList) :
    (readAll header).entries = (member? header.toList).toList := by
  rw [entries_readAll, splitOn_of_not_mem _ _ h]
  cases hm : member? header.toList <;> simp [hm]

theorem entries_readAll_of_malformed {m : String} (hcomma : ',' ∉ m.toList)
    (hm : Malformed m.toList) : (readAll m).entries = [] := by
  rw [entries_readAll_of_not_mem hcomma, member?_of_malformed hm]
  rfl

theorem Padded.flatMap_eq {members more : List String} (h : Padded members more) :
    (more.flatMap fun m => (readAll m).entries) = members.flatMap fun m => (readAll m).entries := by
  induction h with
  | nil => rfl
  | keep m _ ih => rw [List.flatMap_cons, List.flatMap_cons, ih]
  | pad m hcomma hm _ ih =>
    rw [List.flatMap_cons, entries_readAll_of_malformed hcomma hm, List.nil_append, ih]

theorem header_readByMembers (header : String) : ReadByMembers header where
  unlimited limit h := parse_of_length_lt h
  limited limit := entries_parse_eq_take header limit
  joined rest := entries_readAll_append header rest
  padded members more hheader hpadded limit := by
    apply parse_congr
    rw [hheader, entries_readAll_intercalate, entries_readAll_intercalate, hpadded.flatMap_eq]
  malformed hcomma hm := entries_readAll_of_malformed hcomma hm
  wellFormed hcomma key value hsplit hequals hkey := by
    have hne : trim key ≠ [] := mt trim_eq_nil_iff.mp hkey
    rw [entries_readAll_of_not_mem hcomma, hsplit, member?_append_cons hequals, if_neg hne]
    rfl

end TraceIdentity.TraceState
