/-!
# Tables of the database

The statements that create what is missing: five tables, whose guids the database makes, each
followed by the unique index of its natural key.
-/

namespace LiveEvents.Sql

def guidColumn : String :=
  "guid TEXT PRIMARY KEY DEFAULT replace(gen_random_uuid()::text, '-', '')"

def table (name : String) (columns : List String) : String :=
  "CREATE TABLE IF NOT EXISTS " ++ name ++ " ( " ++ ", ".intercalate (guidColumn :: columns) ++ " )"

def uniqueIndex (name table : String) (columns : List String) : String :=
  "CREATE UNIQUE INDEX IF NOT EXISTS " ++ name ++ " ON " ++ table ++ " (" ++
    ", ".intercalate columns ++ ")"

def schema : List String :=
  [
    table "event_period" [
      "code TEXT NOT NULL",
      "is_active BOOLEAN NOT NULL DEFAULT TRUE",
      "scheduled TEXT NOT NULL DEFAULT ''",
      "remark TEXT NOT NULL DEFAULT ''",
      "extra JSONB NOT NULL DEFAULT '\x7b\x7d'::jsonb"],
    uniqueIndex "event_period_code_key" "event_period" ["code"],
    table "team_group" [
      "ecosystem_guid TEXT NOT NULL",
      "external_id TEXT NOT NULL",
      "logo TEXT NOT NULL DEFAULT ''"],
    uniqueIndex "team_group_external_key" "team_group" ["external_id", "ecosystem_guid"],
    table "team_group_language" [
      "team_group_guid TEXT NOT NULL",
      "language_guid TEXT NOT NULL",
      "name TEXT NOT NULL",
      "alias TEXT NOT NULL DEFAULT ''"],
    uniqueIndex "team_group_language_key" "team_group_language"
      ["team_group_guid", "language_guid"],
    table "event" [
      "external_id TEXT NOT NULL",
      "category_guid TEXT NOT NULL",
      "ecosystem_guid TEXT NOT NULL",
      "event_period_guid TEXT NOT NULL",
      "main_team_group_guid TEXT NOT NULL DEFAULT '0'",
      "cluster_team_group_guid TEXT NOT NULL DEFAULT '0'",
      "main_score NUMERIC NOT NULL DEFAULT 0",
      "cluster_score NUMERIC NOT NULL DEFAULT 0",
      "info JSONB NOT NULL DEFAULT '\x7b\x7d'::jsonb",
      "is_online BOOLEAN NOT NULL DEFAULT FALSE",
      "is_live SMALLINT NOT NULL DEFAULT 1",
      "is_sports BOOLEAN NOT NULL DEFAULT FALSE",
      "stage VARCHAR(20) NOT NULL DEFAULT ''",
      "created_at TIMESTAMPTZ NOT NULL DEFAULT NOW()",
      "updated_at TIMESTAMPTZ NOT NULL DEFAULT NOW()"],
    uniqueIndex "event_external_id_key" "event" ["external_id"],
    table "event_language" [
      "event_guid TEXT NOT NULL",
      "language_guid TEXT NOT NULL",
      "title TEXT NOT NULL",
      "rules TEXT NOT NULL DEFAULT ''"],
    uniqueIndex "event_language_key" "event_language" ["event_guid", "language_guid"]]

end LiveEvents.Sql
