import LiveEvents.Proofs.IsolatedSessions
import Mathlib.Data.List.Induction

/-!
# Natural keys of staged rows

No insertion stages a row beside a visible row of its key. An update looks for its row by guid and
does not look at keys. So a transaction that has staged a new row, and then updates a row of the
same key that another transaction has committed in the meantime, has two staged rows of one key.
This is the only way to get there: the staged keys are distinct exactly if there was no such update
since the transaction was opened. Which of two staged rows a lookup finds is up to the order of the
table; the commit is refused in any case.
-/

namespace LiveEvents.Store

namespace Table

variable {α : Type}

theorem contains_of_perm {t t' : Table α} (h : t'.Perm t) (g : Guid) :
    t'.contains g = t.contains g := by
  rw [Bool.eq_iff_iff, ← mem_guids_iff, ← mem_guids_iff]
  exact (h.map Prod.fst).mem_iff

variable [Row α]

def keys (t : Table α) : List String := t.rows.map Row.key

theorem keys_put_of_new {t : Table α} {g : Guid} (h : t.get? g = none) (row : α) :
    (t.put g row).keys = t.keys ++ [Row.key row] := by
  rw [put_eq_append t g row h]
  simp [keys, rows]

theorem keys_put_of_get? {t : Table α} {g : Guid} {row row' : α} (h : t.get? g = some row)
    (hk : Row.key row' = Row.key row) : (t.put g row').keys = t.keys := by
  induction t with
  | nil => simp at h
  | cons p t ih =>
    obtain ⟨g', r⟩ := p
    rw [get?_cons] at h
    by_cases hg : g = g'
    · rw [if_pos hg] at h
      simp [put, hg, keys, rows, hk, Option.some.inj h]
    · rw [if_neg hg] at h
      simpa [put, Ne.symm hg, keys, rows] using ih h

theorem mem_keys {t : Table α} {key : String} : key ∈ t.keys ↔ ∃ row ∈ t.rows, Row.key row = key :=
  List.mem_map

theorem nodup_append_key {t : Table α} {key : String} :
    (t.keys ++ [key]).Nodup ↔ t.keys.Nodup ∧ ¬ ∃ row ∈ t.rows, Row.key row = key := by
  rw [List.nodup_append_comm, List.singleton_append, List.nodup_cons, mem_keys, and_comm]

theorem nodup_keys_insert {staged committed : Table α} {row : α}
    (hnew : staged.get? (Row.guid row) = none)
    (hfree : find? staged committed (Row.key row) = none) :
    (staged.put (Row.guid row) row).keys.Nodup ↔ staged.keys.Nodup := by
  obtain ⟨hstaged, -⟩ := (find?_eq_none_iff staged committed (Row.key row)).mp hfree
  have hnone : ¬ ∃ r ∈ staged.rows, Row.key r = Row.key row := fun ⟨r, hr, hk⟩ => hstaged r hr hk
  rw [keys_put_of_new hnew, nodup_append_key, and_iff_left hnone]

/-- The committed row under `g` is not staged itself, and a staged row has its key. -/
def Shadowed (staged committed : Table α) (g : Guid) : Prop :=
  staged.get? g = none ∧
    ∃ row, committed.get? g = some row ∧ ∃ r ∈ staged.rows, Row.key r = Row.key row

theorem nodup_keys_update {staged committed : Table α} {g : Guid} {row row' : α}
    (hseen : findGuid? staged committed g = some row) (hk : Row.key row' = Row.key row) :
    (staged.put g row').keys.Nodup ↔ staged.keys.Nodup ∧ ¬Shadowed staged committed g := by
  rw [findGuid?_eq] at hseen
  cases hstaged : staged.get? g with
  | some r =>
    have hr : r = row := by simpa [hstaged] using hseen
    have hunshadowed : ¬Shadowed staged committed g := by simp [Shadowed, hstaged]
    rw [keys_put_of_get? hstaged (hr ▸ hk), and_iff_left hunshadowed]
  | none =>
    have hcommitted : committed.get? g = some row := by simpa [hstaged] using hseen
    rw [keys_put_of_new hstaged, nodup_append_key, hk]
    simp [Shadowed, hstaged, hcommitted]

/-! ## Two staged rows of one key -/

theorem Keyed.eq_of_guid {t : Table α} (ht : t.Keyed) {row row' : α} (h : row ∈ t.rows)
    (h' : row' ∈ t.rows) (hg : Row.guid row = Row.guid row') : row = row' := by
  have hget := ht.get?_of_mem_rows h
  rw [hg, ht.get?_of_mem_rows h'] at hget
  exact (Option.some.inj hget).symm

theorem Keyed.nodup_rows {t : Table α} (ht : t.Keyed) : t.rows.Nodup := by
  have hguids : t.rows.map Row.guid = t.guids := by
    rw [rows, List.map_map]
    exact List.map_congr_left fun p hp => ht.own p.1 p.2 (get?_of_mem ht.nodup hp)
  exact List.Nodup.of_map Row.guid (hguids ▸ ht.nodup)

theorem Keyed.exists_clash {t : Table α} (ht : t.Keyed) (h : ¬t.keys.Nodup) :
    ∃ row ∈ t.rows, ∃ row' ∈ t.rows, row ≠ row' ∧ Row.key row = Row.key row' := by
  by_contra hnone
  push Not at hnone
  refine h (List.Nodup.map_on ?_ ht.nodup_rows)
  intro row hrow row' hrow' hk
  by_contra hne
  exact hnone row hrow row' hrow' hne hk

section Clash

variable {f : ℕ → Guid} {n : ℕ} [Fixed α] {committed staged : Table α}

/-- Of two staged rows of one key, one is new and the other one is staged for a committed row. -/
theorem Staged.contains_iff_of_key (hC : Committed f n committed)
    (hS : Staged f n committed staged) {row row' : α} (h : row ∈ staged.rows)
    (h' : row' ∈ staged.rows) (hne : row ≠ row') (hk : Row.key row = Row.key row') :
    committed.contains (Row.guid row) = true ↔ committed.contains (Row.guid row') = false := by
  have hget := hS.get?_of_mem_rows h
  have hget' := hS.get?_of_mem_rows h'
  have hguids : Row.guid row ≠ Row.guid row' := fun hg => hne (hS.eq_of_guid h h' hg)
  cases hc : committed.contains (Row.guid row) with
  | false =>
    have hnew : committed.contains (Row.guid row') ≠ false := fun hc' =>
      hguids (hS.unique _ _ row row' hget hget' hc hc' hk)
    simpa using hnew
  | true =>
    have hnew : committed.contains (Row.guid row') ≠ true := by
      intro hc'
      obtain ⟨r, hr⟩ := (contains_iff _ _).mp hc
      obtain ⟨r', hr'⟩ := (contains_iff _ _).mp hc'
      have hkey := Fixed.key_eq (hS.fixed _ row r hget hr)
      have hkey' := Fixed.key_eq (hS.fixed _ row' r' hget' hr')
      exact hguids (hC.unique _ _ r r' hr hr' (hkey.symm.trans (hk.trans hkey')))
    simpa using hnew

/-- Of such a pair, the new row collides with the committed row of the other one. -/
theorem Staged.exists_collision (hC : Committed f n committed) (hS : Staged f n committed staged)
    (h : ¬staged.keys.Nodup) : ∃ row ∈ staged.rows, committed.contains (Row.guid row) = false ∧
      ∃ row' ∈ committed.rows, Row.key row' = Row.key row := by
  have hcollides : ∀ row ∈ staged.rows, ∀ row' ∈ staged.rows, Row.key row = Row.key row' →
      committed.contains (Row.guid row) = false → committed.contains (Row.guid row') = true →
      ∃ row ∈ staged.rows, committed.contains (Row.guid row) = false ∧
        ∃ row' ∈ committed.rows, Row.key row' = Row.key row := by
    intro row hrow row' hrow' hk hnew hold
    obtain ⟨r, hr⟩ := (contains_iff _ _).mp hold
    have hkey := Fixed.key_eq (hS.fixed _ row' r (hS.get?_of_mem_rows hrow') hr)
    exact ⟨row, hrow, hnew, r, mem_rows_of_get? hr, hkey.symm.trans hk.symm⟩
  obtain ⟨row, hrow, row', hrow', hne, hk⟩ := hS.exists_clash h
  have hother := hS.contains_iff_of_key hC hrow hrow' hne hk
  cases hc : committed.contains (Row.guid row) with
  | false => exact hcollides row hrow row' hrow' hk hc (by simpa [hc] using hother)
  | true => exact hcollides row' hrow' row hrow hk.symm (hother.mp hc) hc

end Clash

/-! ## Lookups in any order -/

theorem Committed.eq_of_key {f : ℕ → Guid} {n : ℕ} {t : Table α} (h : Committed f n t)
    {row row' : α} (hrow : row ∈ t.rows) (hrow' : row' ∈ t.rows) (hk : Row.key row = Row.key row') :
    row = row' :=
  h.eq_of_guid hrow hrow' (h.unique _ _ row row' (h.get?_of_mem_rows hrow)
    (h.get?_of_mem_rows hrow') hk)

theorem find?_eq_some_iff {staged committed : Table α} {key : String} {row : α}
    (hstaged : ∀ r ∈ staged.rows, ∀ r' ∈ staged.rows, Row.key r = key → Row.key r' = key → r = r')
    (hcommitted : ∀ r ∈ committed.rows, ∀ r' ∈ committed.rows, Row.key r = Row.key r' → r = r') :
    find? staged committed key = some row ↔ Row.key row = key ∧
      (row ∈ staged.rows ∨ (row ∈ committed.rows ∧ staged.contains (Row.guid row) = false ∧
        ∀ r ∈ staged.rows, Row.key r ≠ key)) := by
  refine ⟨find?_some, ?_⟩
  rintro ⟨rfl, hrow | ⟨hrow, hfree, hnone⟩⟩
  · exact find?_eq_of_staged hrow fun r hr hk => hstaged r hr row hrow hk rfl
  · cases hfind : find? staged committed (Row.key row) with
    | none =>
      have hcontains := ((find?_eq_none_iff _ _ _).mp hfind).2 row hrow rfl
      rw [hfree] at hcontains
      cases hcontains
    | some r =>
      obtain ⟨hk, hr | ⟨hr, -⟩⟩ := find?_some hfind
      · exact absurd hk (hnone r hr)
      · rw [hcommitted r hr row hrow hk]

theorem find?_of_head {staged committed : Table α} (p : Guid × α) :
    find? (p :: staged) committed (Row.key p.2) = some p.2 := by
  simp [find?, rows]

/-- Which row is found under a key does not depend on the order of the rows exactly if at most one
staged row has that key. -/
theorem find?_perm_iff {f : ℕ → Guid} {n : ℕ} {staged committed : Table α}
    (hC : Committed f n committed) (key : String) :
    (∀ staged' committed', staged'.Perm staged → committed'.Perm committed →
        find? staged' committed' key = find? staged committed key) ↔
      ∀ row ∈ staged.rows, ∀ row' ∈ staged.rows, Row.key row = key → Row.key row' = key →
        row = row' := by
  constructor
  · intro hsame row hrow row' hrow' hk hk'
    -- a row of the key is found where it stands first
    have hfirst : ∀ r ∈ staged.rows, Row.key r = key → find? staged committed key = some r := by
      rintro r hr rfl
      obtain ⟨p, hp, rfl⟩ := List.mem_map.mp hr
      obtain ⟨before, behind, rfl⟩ := List.append_of_mem hp
      rw [← hsame (p :: (before ++ behind)) committed List.perm_middle.symm (List.Perm.refl _),
        find?_of_head]
    have heq := hfirst row hrow hk
    rw [hfirst row' hrow' hk'] at heq
    exact (Option.some.inj heq).symm
  · intro hstaged staged' committed' hperm hperm'
    have hrows : ∀ row, row ∈ staged'.rows ↔ row ∈ staged.rows := fun row =>
      (hperm.map Prod.snd).mem_iff
    have hrows' : ∀ row, row ∈ committed'.rows ↔ row ∈ committed.rows := fun row =>
      (hperm'.map Prod.snd).mem_iff
    have hcommitted : ∀ r ∈ committed.rows, ∀ r' ∈ committed.rows, Row.key r = Row.key r' →
        r = r' := fun r hr r' hr' hk => hC.eq_of_key hr hr' hk
    apply Option.ext
    intro row
    rw [find?_eq_some_iff hstaged hcommitted,
      find?_eq_some_iff (by simpa only [hrows] using hstaged)
        (by simpa only [hrows'] using hcommitted)]
    simp only [hrows, hrows', contains_of_perm hperm]

end Table

/-- The kind and the guid of the row that a call updates. -/
def Call.updated? : Call → Option (Entity × Guid)
  | .updateEvent g _ => some (.event, g)
  | .updateTitle g _ => some (.title, g)
  | _ => none

/-- The call updates a committed row that is not staged, but a row of its key is. -/
def Call.UpdatesShadowed (c : Call) (staged committed : Tables) (k : Entity) : Prop :=
  ∃ g, c.updated? = some (k, g) ∧ Table.Shadowed (staged.of k) (committed.of k) g

namespace Call

variable {c : Call} {staged committed : Tables} {k : Entity}

theorem not_updatesShadowed (h : c.updated? = none) : ¬c.UpdatesShadowed staged committed k := by
  rintro ⟨g, hg, -⟩
  rw [h] at hg
  cases hg

theorem updatesShadowed_iff {j : Entity} {g : Guid} (h : c.updated? = some (j, g)) :
    c.UpdatesShadowed staged committed k ↔
      j = k ∧ Table.Shadowed (staged.of j) (committed.of j) g := by
  constructor
  · rintro ⟨g', hg, hshadowed⟩
    rw [h] at hg
    cases hg
    exact ⟨rfl, hshadowed⟩
  · rintro ⟨rfl, hshadowed⟩
    exact ⟨g, h, hshadowed⟩

theorem kind_of_updated? {g : Guid} (h : c.updated? = some (k, g)) : k = .event ∨ k = .title := by
  cases c <;> cases h
  · exact .inl rfl
  · exact .inr rfl

end Call

namespace Memory

variable {mint : Mint} {m : Memory} {staged : Tables}

theorem nodup_keys_createRow (hd : mint.Distinct) (hs : m.Admits mint staged) {j : Entity}
    {row : j.Of} (hg : Row.guid row = mint.guid j (m.given j)) (k : Entity) :
    ((m.createRow staged j row).2.2.of k).keys.Nodup ↔ (staged.of k).keys.Nodup := by
  have hnew : (staged.of j).get? (Row.guid row) = none := by
    rw [hg, ← Table.contains_eq_false_iff]
    exact Table.not_contains_of_given (hd.guid j) (hs j).given
  cases hf : Table.find? (staged.of j) (m.committed.of j) (Row.key row) with
  | some row' => rw [createRow_of_some hf]
  | none =>
    rw [createRow_of_none hf]
    by_cases hk : k = j
    · subst hk
      rw [Tables.of_set_self, Table.nodup_keys_insert hnew hf]
    · rw [Tables.of_set_ne staged hk]

theorem nodup_keys_updateRow {j : Entity} {g : Guid} {f : j.Of → j.Of}
    (hf : ∀ row, Row.key (f row) = Row.key row) (k : Entity) :
    ((m.updateRow staged j g f).2.2.of k).keys.Nodup ↔ (staged.of k).keys.Nodup ∧
      ¬(j = k ∧ Table.Shadowed (staged.of j) (m.committed.of j) g) := by
  cases hseen : Table.findGuid? (staged.of j) (m.committed.of j) g with
  | none =>
    have hunshadowed : ¬Table.Shadowed (staged.of j) (m.committed.of j) g := by
      rintro ⟨hstaged, row, hrow, -⟩
      simp [Table.findGuid?_eq, hstaged, hrow] at hseen
    rw [updateRow_of_none hseen, and_iff_left fun h => hunshadowed h.2]
  | some row =>
    rw [updateRow_of_some hseen]
    by_cases hk : k = j
    · subst hk
      rw [Tables.of_set_self, Table.nodup_keys_update hseen (hf row)]
      simp
    · rw [Tables.of_set_ne staged hk, and_iff_left fun h => hk h.1.symm]

theorem perform_ends {c : Call} (h : c = .begin ∨ c = .commit) :
    (m.perform mint staged c).2.2 = {} := by
  rcases h with rfl | rfl
  · rfl
  · cases hconflict : staged.conflict? m.committed with
    | none => rw [perform_commit_of_free mint hconflict]
    | some e => rw [perform_commit_of_conflict mint hconflict]

/-- One call leaves the staged keys distinct exactly if they were so before and the call does not
update a shadowed row. -/
theorem nodup_keys_perform (hd : mint.Distinct) (hs : m.Admits mint staged) {c : Call}
    (hbegin : c ≠ .begin) (hcommit : c ≠ .commit) (k : Entity) :
    ((m.perform mint staged c).2.2.of k).keys.Nodup ↔
      (staged.of k).keys.Nodup ∧ ¬c.UpdatesShadowed staged m.committed k := by
  cases c with
  | begin => exact absurd rfl hbegin
  | commit => exact absurd rfl hcommit
  | periodByCode _ | eventByExternalId _ | title _ _ | team _ _ =>
    rw [and_iff_left (Call.not_updatesShadowed rfl)]
    rfl
  | createPeriod draft =>
    rw [perform_createPeriod, nodup_keys_createRow hd hs rfl,
      and_iff_left (Call.not_updatesShadowed rfl)]
  | createEvent draft =>
    rw [perform_createEvent, nodup_keys_createRow hd hs rfl,
      and_iff_left (Call.not_updatesShadowed rfl)]
  | createTitle draft =>
    rw [perform_createTitle, nodup_keys_createRow hd hs rfl,
      and_iff_left (Call.not_updatesShadowed rfl)]
  | createTeam draft =>
    rw [perform_createTeam, nodup_keys_createRow hd hs rfl,
      and_iff_left (Call.not_updatesShadowed rfl)]
  | createTeamName draft =>
    rw [perform_createTeamName, nodup_keys_createRow hd hs rfl,
      and_iff_left (Call.not_updatesShadowed rfl)]
  | updateEvent g patch =>
    have hkey : ∀ row : Event, Row.key (patch.apply row) = Row.key row := fun _ => rfl
    rw [perform_updateEvent, nodup_keys_updateRow hkey, Call.updatesShadowed_iff rfl]
  | updateTitle g title =>
    have hkey : ∀ row : Title, Row.key { row with title } = Row.key row := fun _ => rfl
    rw [perform_updateTitle, nodup_keys_updateRow hkey, Call.updatesShadowed_iff rfl]

end Memory

namespace Sessions

section Ends

variable {κ : Type}

/-- The action closes the transaction or opens it anew. -/
def Action.Ends (name : κ) : Action κ → Prop
  | .begin other | .rollback other => other = name
  | .call other c => other = name ∧ (c = .begin ∨ c = .commit)

theorem Action.name_of_ends {name : κ} {a : Action κ} (h : a.Ends name) : a.name = name := by
  cases a with
  | begin _ | rollback _ => exact h
  | call _ _ => exact h.1

end Ends

variable {κ : Type} [DecidableEq κ] {mint : Mint}

/-- Since it was opened, the transaction has updated a row that one of its staged rows shadowed. -/
def HasUpdatedShadowed (mint : Mint) (history : List (Action κ)) (name : κ) (k : Entity) : Prop :=
  ∃ past c future staged, history = past ++ .call name c :: future ∧
    (∀ a ∈ future, ¬a.Ends name) ∧ (after mint {} past).active.lookup name = some staged ∧
      c.UpdatesShadowed staged (committedAfter mint past) k

theorem hasUpdatedShadowed_snoc (mint : Mint) (history : List (Action κ)) (a : Action κ) (name : κ)
    (k : Entity) : HasUpdatedShadowed mint (history ++ [a]) name k ↔
      (HasUpdatedShadowed mint history name k ∧ ¬a.Ends name) ∨
        ∃ c staged, a = .call name c ∧ (after mint {} history).active.lookup name = some staged ∧
          c.UpdatesShadowed staged (committedAfter mint history) k := by
  constructor
  · rintro ⟨past, c, future, staged, heq, hopen, hlookup, hupdates⟩
    rcases List.eq_nil_or_concat future with rfl | ⟨future, b, rfl⟩
    · obtain ⟨rfl, hlast⟩ := List.append_inj' heq rfl
      exact .inr ⟨c, staged, List.singleton_inj.mp hlast, hlookup, hupdates⟩
    · rw [List.concat_eq_append, ← List.cons_append, ← List.append_assoc] at heq
      obtain ⟨rfl, hlast⟩ := List.append_inj' heq rfl
      rw [List.singleton_inj.mp hlast]
      exact .inl ⟨⟨past, c, future, staged, rfl, fun b hb => hopen b (by simp [hb]), hlookup,
        hupdates⟩, hopen b (by simp)⟩
  · rintro (⟨⟨past, c, future, staged, rfl, hopen, hlookup, hupdates⟩, hlast⟩ |
      ⟨c, staged, rfl, hlookup, hupdates⟩)
    · refine ⟨past, c, future ++ [a], staged, by simp, ?_, hlookup, hupdates⟩
      intro b hb
      rcases List.mem_append.mp hb with hb | hb
      · exact hopen b hb
      · exact List.mem_singleton.mp hb ▸ hlast
    · exact ⟨history, c, [], staged, rfl, by simp, hlookup, hupdates⟩

/-- Staged keys are distinct exactly if the open transaction has updated no shadowed row. -/
theorem nodup_keys_after (hd : mint.Distinct) (history : List (Action κ)) (name : κ) (k : Entity)
    {staged : Tables} (hopen : (after mint {} history).active.lookup name = some staged) :
    (staged.of k).keys.Nodup ↔ ¬HasUpdatedShadowed mint history name k := by
  induction history using List.reverseRecOn generalizing staged with
  | nil => cases hopen
  | append_singleton history a ih =>
    obtain ⟨hsound, -⟩ := (sound_empty mint).after hd history
    rw [after_append] at hopen
    rw [hasUpdatedShadowed_snoc]
    by_cases hname : name = a.name
    · subst hname
      cases a with
      | begin name =>
        have hempty := (lookup_open name name {} _).symm.trans hopen
        rw [if_pos rfl] at hempty
        rw [← Option.some.inj hempty, Tables.of_empty]
        simp [Action.Ends, Table.keys, Table.rows, Action.name]
      | rollback name =>
        have hnone := (lookup_erase name name _).symm.trans hopen
        rw [if_pos rfl] at hnone
        cases hnone
      | call name c =>
        change (Sessions.call mint (after mint {} history) name c).2.active.lookup name =
          some staged at hopen
        cases hbefore : (after mint {} history).active.lookup name with
        | none =>
          rw [Sessions.call, hbefore] at hopen
          cases hbefore.symm.trans hopen
        | some staged' =>
          rw [lookup_call_self hbefore hopen]
          by_cases hend : c = .begin ∨ c = .commit
          · have hcalls : ¬c.UpdatesShadowed staged' (committedAfter mint history) k :=
              Call.not_updatesShadowed (by rcases hend with rfl | rfl <;> rfl)
            rw [Memory.perform_ends hend, Tables.of_empty]
            simp [Action.Ends, Table.keys, Table.rows, Action.name, hend, hbefore, hcalls]
          · obtain ⟨hbegin, hcommit⟩ := not_or.mp hend
            rw [Memory.nodup_keys_perform hd (hsound.admits name staged' hbefore) hbegin hcommit,
              ih hbefore]
            simp [Action.Ends, Action.name, hend, hbefore, committedAfter]
    · have hends : ¬a.Ends name := fun h => hname (Action.name_of_ends h).symm
      have hother : ∀ c, a ≠ .call name c := by
        rintro c rfl
        exact hname rfl
      rw [after, List.foldl_cons, List.foldl_nil, lookup_act_of_ne _ a hname] at hopen
      rw [ih hopen]
      simp [hends, hother]

/-- A transaction with two staged rows of one key can no longer commit. -/
theorem commit_refused {s : Sessions κ} (hs : s.Sound mint) {name : κ} {staged : Tables}
    (hopen : s.active.lookup name = some staged) {k : Entity} (h : ¬(staged.of k).keys.Nodup) :
    ∃ j key, (s.call mint name .commit).1 = some (.error (.duplicate (Entity.name j) key)) := by
  have hcollides : staged.Collides s.memory.committed :=
    ⟨k, (hs.admits name staged hopen k).exists_collision (hs.memory k) h⟩
  obtain ⟨e, he⟩ := Option.ne_none_iff_exists'.mp ((Tables.collides_iff _ _).mp hcollides)
  obtain ⟨j, row, -, -, -, rfl⟩ := Tables.conflict?_eq_some he
  refine ⟨j, Row.key row, ?_⟩
  rw [(call_of_open mint hopen .commit).1, Memory.perform_commit_of_conflict mint he]

/-- The staged rows of a kind in any state that is reached. Their keys are distinct exactly if the
transaction, since it was opened, has updated no committed row beside a staged row of its key, so
for the kinds that are never updated they always are. Of two staged rows of one key, one is new and
one is staged for a committed row. Which row is found under a key does not depend on the order of
the tables exactly if at most one staged row has that key. With two, the commit is refused. -/
theorem staged_keys_told (hd : mint.Distinct) (history : List (Action κ)) {name : κ}
    {staged : Tables} (hopen : (after mint {} history).active.lookup name = some staged)
    (k : Entity) :
    let rows := staged.of k
    let committed := (committedAfter mint history).of k
    (rows.keys.Nodup ↔ ¬HasUpdatedShadowed mint history name k) ∧
    (k ≠ .event → k ≠ .title → rows.keys.Nodup) ∧
    (∀ row ∈ rows.rows, ∀ row' ∈ rows.rows, row ≠ row' → Row.key row = Row.key row' →
      (committed.contains (Row.guid row) = true ↔ committed.contains (Row.guid row') = false)) ∧
    (∀ key, (∀ rows' committed', rows'.Perm rows → committed'.Perm committed →
        Table.find? rows' committed' key = Table.find? rows committed key) ↔
      ∀ row ∈ rows.rows, ∀ row' ∈ rows.rows, Row.key row = key → Row.key row' = key →
        row = row') ∧
    (¬rows.keys.Nodup → ∃ j key, ((after mint {} history).call mint name .commit).1 =
      some (.error (.duplicate (Entity.name j) key))) := by
  obtain ⟨hsound, -⟩ := (sound_empty mint).after hd history
  have hcommitted := hsound.memory k
  have hstaged := hsound.admits name staged hopen k
  have hkeys := nodup_keys_after hd history name k hopen
  refine ⟨hkeys, fun hevent htitle => hkeys.mpr ?_,
    fun row hrow row' hrow' hne hk => hstaged.contains_iff_of_key hcommitted hrow hrow' hne hk,
    Table.find?_perm_iff hcommitted, commit_refused hsound hopen⟩
  rintro ⟨past, c, future, staged', -, -, -, g, hg, -⟩
  exact (Call.kind_of_updated? hg).elim hevent htitle

def finalsTitle (title : String) : TitleDraft where
  event := "finals-7"
  language := "en"
  title := title
  rules := ""

/-- A transaction creates a title, another one creates it too and commits, and the first one
updates the title of the second. -/
def doubledTitle : List (Action Bool) :=
  [.begin false, .call false (.createTitle (finalsTitle "Celtics vs Mavericks")), .begin true,
    .call true (.createTitle (finalsTitle "Game 7")), .call true .commit,
    .call false (.updateTitle (hexGuid 'a' 1) "Finals, game 7")]

theorem lookup_doubledTitle : ∃ staged,
    (after .serial {} doubledTitle).active.lookup false = some staged ∧ staged.titles =
      [(hexGuid 'a' 0, (finalsTitle "Celtics vs Mavericks").toTitle (hexGuid 'a' 0)),
        (hexGuid 'a' 1, (finalsTitle "Finals, game 7").toTitle (hexGuid 'a' 1))] :=
  Option.map_eq_some_iff.mp (by decide +kernel)

/-- The title of the other transaction is staged beside the own one, so that a lookup finds either
of them. -/
theorem doubledTitle_ambiguous : ∃ staged,
    (after .serial {} doubledTitle).active.lookup false = some staged ∧
      ¬staged.titles.keys.Nodup ∧
      ∃ titles : Table Title, titles.Perm staged.titles ∧
        Table.find? titles (committedAfter .serial doubledTitle).titles "finals-7/en" ≠
          Table.find? staged.titles (committedAfter .serial doubledTitle).titles
            "finals-7/en" := by
  obtain ⟨staged, hopen, htitles⟩ := lookup_doubledTitle
  refine ⟨staged, hopen, ?_, staged.titles.reverse, List.reverse_perm _, ?_⟩
  · rw [htitles]
    decide +kernel
  · rw [htitles]
    decide +kernel

/-- What the theorem says of that transaction: it has updated a shadowed title, and it can no
longer commit. -/
theorem doubledTitle_told : ∃ staged,
    (after .serial {} doubledTitle).active.lookup false = some staged ∧
      ¬staged.titles.keys.Nodup ∧ HasUpdatedShadowed .serial doubledTitle false .title ∧
      staged.periods.keys.Nodup ∧
      ∃ j key, ((after .serial {} doubledTitle).call .serial false .commit).1 =
        some (.error (.duplicate (Entity.name j) key)) := by
  obtain ⟨staged, hopen, htitles⟩ := lookup_doubledTitle
  have hclash : ¬staged.titles.keys.Nodup := by
    rw [htitles]
    decide +kernel
  obtain ⟨hkeys, -, -, -, hrefused⟩ :=
    staged_keys_told Mint.serial_distinct doubledTitle hopen .title
  obtain ⟨-, hperiods, -⟩ := staged_keys_told Mint.serial_distinct doubledTitle hopen .period
  exact ⟨staged, hopen, hclash, not_not.mp (mt hkeys.mpr hclash),
    hperiods (by decide) (by decide), hrefused hclash⟩

end Sessions

end LiveEvents.Store
