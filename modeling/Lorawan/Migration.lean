import Lorawan.ServiceError
import Lorawan.Text.Utf8

/-!
# Schema migrations

The schema of the database is kept by a separate program.  It is started with the directory of the
migration files, the kind of database, how to reach it and a command; its success and what it prints are
the outcome.
-/

namespace Lorawan

/-- What the migration program is asked to do. -/
inductive MigrationCommand where
  /-- Applies all pending migrations. -/
  | up
  /-- Reports applied and pending migrations. -/
  | status
  deriving DecidableEq, Repr

/-- The word for a command. -/
def MigrationCommand.label : MigrationCommand → String
  | up => "up"
  | status => "status"

/-- How migrations are run. -/
structure Migration where
  program : String
  directory : String
  driver : String
  /-- How to reach the database. -/
  source : String
  deriving DecidableEq, Repr

/-- A PostgreSQL database that is reached without encryption. -/
structure PostgresSource where
  host : String
  port : UInt16
  database : String
  username : String
  password : String
  deriving DecidableEq, Repr

/-- How to reach the database, as text. -/
def PostgresSource.text (p : PostgresSource) : String :=
  s!"postgres://{p.username}:{p.password}@{p.host}:{p.port.toNat}/{p.database}?sslmode=disable"

/-- How a started program ended, or that it could not be started. -/
inductive Execution where
  | notStarted
  | ended (success : Bool) (output errors : List UInt8)
  deriving DecidableEq, Repr

/-- Why a command came to nothing. -/
inductive MigrationError where
  | notStarted (program : String)
  | failed (command : MigrationCommand) (output errors : String)
  deriving DecidableEq, Repr

/-- The wording of a migration error. -/
def MigrationError.message : MigrationError → String
  | .notStarted program => s!"failed to spawn {program}"
  | .failed command output errors =>
    s!"goose {command.label} failed.\nstdout: {output}\nstderr: {errors}"

namespace Migration

/-- Migrations of a PostgreSQL database. -/
def postgres (program directory : String) (p : PostgresSource) : Migration :=
  ⟨program, directory, "postgres", p.text⟩

/-- The words after the program's name. -/
def arguments (m : Migration) (command : MigrationCommand) : List String :=
  ["-dir", m.directory, m.driver, m.source, command.label]

/-- What the program printed, if it was successful. -/
def outcome (m : Migration) (command : MigrationCommand) : Execution → Except MigrationError String
  | .notStarted => .error (.notStarted m.program)
  | .ended true output _ => .ok (Utf8.decodeLossy output)
  | .ended false output errors =>
    .error (.failed command (Utf8.decodeLossy output) (Utf8.decodeLossy errors))

/-- Carries out a command with a way to start programs. -/
def run (start : String → List String → Execution) (m : Migration) (command : MigrationCommand) :
    Except MigrationError String :=
  m.outcome command (start m.program (m.arguments command))

end Migration

end Lorawan
