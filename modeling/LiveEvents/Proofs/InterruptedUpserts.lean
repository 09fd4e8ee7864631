import LiveEvents.Proofs.CommittedRows
import LiveEvents.Proofs.ConcurrentUpserts
import LiveEvents.Proofs.FaultyCourses

/-!
# Upserts that are interrupted

An upsert that is alone on a store fails if it meets a fault, also where it goes on after a
duplicate. It fails only then on every store in which no name was put before its team, and so on
every store that only upserts have written. When it fails, all committed tables are as they were.
-/

namespace LiveEvents.Upsert

open Store (FaultRule Memory Mint Row Sessions pairKey)

variable {mint : Mint} {rules : List FaultRule} {o : Observation}

/-- An upsert fails if it meets a fault, and it fails only then unless the name of a team to come
is in the store already. A failed upsert keeps what was committed. -/
theorem underFaults_fails {m : Memory} (hd : mint.Distinct)
    (hrules : ∀ r ∈ rules, r.fault.Interrupts) (hm : m.Sound mint) (timeout : Duration) :
    (meetsFault mint rules m o = true →
        ∃ e, (underFaults mint rules timeout m o).1 = .error e) ∧
      (mint.Unforeseen o.identity.language m →
        (∃ e, (underFaults mint rules timeout m o).1 = .error e) →
          meetsFault mint rules m o = true) ∧
      ((∃ e, (underFaults mint rules timeout m o).1 = .error e) →
        (underFaults mint rules timeout m o).2.committed = m.committed) := by
  rcases underFaults_cases hd hrules hm timeout with ⟨hmet, hok⟩ | ⟨hmet, herror, hkept⟩
  · have hnot : ¬ ∃ e, (underFaults mint rules timeout m o).1 = .error e := by
      rw [hok]
      rintro ⟨e, he⟩
      cases he
    exact ⟨fun h => absurd (hmet.symm.trans h) nofun, fun _ h => absurd h hnot,
      fun h => absurd h hnot⟩
  · exact ⟨fun _ => herror, fun hnew _ => hmet hnew, fun _ => hkept⟩

/-- On every store that can be reached, an upsert that meets a fault fails, an upsert fails only if
it meets one, and a failed upsert leaves all five tables as they were. -/
theorem failed_upsert_keeps_tables {κ : Type} [DecidableEq κ] (hd : mint.Distinct)
    (history : List (Sessions.Action κ)) (hrules : ∀ r ∈ rules, r.fault.Interrupts)
    (timeout : Duration) :
    let m := (Sessions.after mint {} history).memory
    let result := underFaults mint rules timeout m o
    (meetsFault mint rules m o = true → ∃ e, result.1 = .error e) ∧
      (mint.Unforeseen o.identity.language m →
        (∃ e, result.1 = .error e) → meetsFault mint rules m o = true) ∧
      ((∃ e, result.1 = .error e) → result.2.committed = m.committed) :=
  underFaults_fails hd hrules ((Sessions.sound_empty mint).after hd history).1.memory timeout

/-- Where only upserts have written, no name is there before its team. -/
theorem unforeseen_after (hd : mint.Distinct) (hslash : mint.Slashless) (moves : List Move)
    (language : Guid) : mint.Unforeseen language (Race.after mint moves).memory := by
  have h := Race.safe_after hd hslash moves
  refine h.sound.unforeseen hd hslash ?_ language
  intro name hname
  exact h.complete.team _ name ((h.sound .teamName).get?_of_mem_rows hname)

/-- On a store that only upserts have written, in whatever order their calls came, an upsert fails
exactly when it meets a fault. -/
theorem fails_iff_meetsFault (hd : mint.Distinct) (hslash : mint.Slashless) (moves : List Move)
    (hrules : ∀ r ∈ rules, r.fault.Interrupts) (timeout : Duration) :
    (∃ e, (underFaults mint rules timeout (Race.after mint moves).memory o).1 = .error e) ↔
      meetsFault mint rules (Race.after mint moves).memory o = true := by
  have hm := (Race.safe_after hd hslash moves).sound
  obtain ⟨hfails, honly, _⟩ := underFaults_fails (o := o) hd hrules hm timeout
  exact ⟨honly (unforeseen_after hd hslash moves _), hfails⟩

/-- The home team and its name are committed. -/
def homeHistory : List (Sessions.Action Bool) :=
  [.begin true, .call true (.createTeam (teamDraft celtics "nba")),
    .call true (.createTeamName (teamNameDraft celtics (Store.hexGuid 'a' 0) "en")),
    .call true .commit]

/-- The creation of the away team looks like a duplicate. -/
def falseDuplicate : List FaultRule :=
  [⟨"create_team_group", 1, .fail (.duplicate "team group" "dal/nba")⟩]

theorem serial_unforeseen_home :
    Mint.serial.Unforeseen "en" (Sessions.after .serial {} homeHistory).memory := by
  have hrows : (Sessions.after .serial {} homeHistory).memory.rows = 1 := by decide +kernel
  have hkeys : (Sessions.after .serial {} homeHistory).memory.committed.teamNames.rows.map Row.key =
      [pairKey (Store.hexGuid 'a' 0) "en"] := by decide +kernel
  intro i hi name hname hkey
  have hmem : Row.key name ∈ [pairKey (Store.hexGuid 'a' 0) "en"] :=
    hkeys ▸ List.mem_map_of_mem hname
  rw [List.mem_singleton, hkey] at hmem
  have hzero : i = 0 := Store.hexGuid_injective 'a' (Store.pairKey_left_injective hmem)
  omega

/-- The period and the teams that were staged before the fault are not committed. -/
theorem false_duplicate_keeps_home : Mint.serial.Distinct ∧
    (∀ r ∈ falseDuplicate, r.fault.Interrupts) ∧
    Mint.serial.Unforeseen "en" (Sessions.after .serial {} homeHistory).memory ∧
    meetsFault .serial falseDuplicate (Sessions.after .serial {} homeHistory).memory finals = true ∧
    (underFaults .serial falseDuplicate .zero (Sessions.after .serial {} homeHistory).memory
      finals).2.committed = (Sessions.after .serial {} homeHistory).memory.committed := by
  have hrules : ∀ r ∈ falseDuplicate, r.fault.Interrupts := by
    intro r hr
    rw [List.mem_singleton.mp hr]
    trivial
  have hmeets : meetsFault .serial falseDuplicate (Sessions.after .serial {} homeHistory).memory
      finals = true := by decide +kernel
  obtain ⟨hfails, honly, hkeeps⟩ := failed_upsert_keeps_tables (o := finals) Mint.serial_distinct
    homeHistory hrules .zero
  have herror := hfails hmeets
  exact ⟨Mint.serial_distinct, hrules, serial_unforeseen_home,
    honly serial_unforeseen_home herror, hkeeps herror⟩

end LiveEvents.Upsert
