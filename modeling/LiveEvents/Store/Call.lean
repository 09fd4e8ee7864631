import LiveEvents.Program
import LiveEvents.Rows
import LiveEvents.Text.Quoted

/-!
# Calls to a store

A store is used by calls, each of which gets a reply or an error. What a client of a store does
is a program of such calls.
-/

namespace LiveEvents.Store

inductive Entity where
  | event
  | title
  | period
  | team
  | teamName
  deriving DecidableEq, Repr

def Entity.name : Entity → String
  | event => "event"
  | title => "event language"
  | period => "event period"
  | team => "team group"
  | teamName => "team group language"

inductive StoreError where
  | duplicate (entity key : String)
  | notFound (entity key : String)
  | backend (cause : String)
  deriving DecidableEq, Repr

namespace StoreError

def message : StoreError → String
  | duplicate entity key => entity ++ " with key " ++ Text.quoted key ++ " already exists"
  | notFound entity key => entity ++ " with key " ++ Text.quoted key ++ " not found"
  | backend cause => "store backend failure: " ++ cause

def isDuplicate : StoreError → Bool
  | duplicate _ _ => true
  | _ => false

end StoreError

inductive Call where
  | begin
  | periodByCode (code : String)
  | createPeriod (draft : PeriodDraft)
  | eventByExternalId (externalId : String)
  | createEvent (draft : EventDraft)
  | updateEvent (guid : Guid) (patch : EventPatch)
  | title (event language : Guid)
  | createTitle (draft : TitleDraft)
  | updateTitle (guid : Guid) (title : String)
  | team (externalId : String) (ecosystem : Guid)
  | createTeam (draft : TeamDraft)
  | createTeamName (draft : TeamNameDraft)
  | commit

@[reducible] def Call.Reply : Call → Type
  | periodByCode _ => Option Period
  | eventByExternalId _ => Option Event
  | title _ _ => Option Title
  | team _ _ => Option Team
  | _ => Unit

abbrev Program :=
  LiveEvents.Program Call fun c => Except StoreError c.Reply

namespace Program

def call (c : Call) : Program (Except StoreError c.Reply) :=
  LiveEvents.Program.question c

end Program

end LiveEvents.Store
