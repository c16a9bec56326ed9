import Laurels.Procedure

/-!
# The connection pool

The service keeps one pool of database connections. Opening it again while it is open does nothing, and
neither does closing it while it is closed; whatever needs the pool while it is closed fails. The lifespan of
the server opens the pool, creates the schema, and closes the pool when the server stops.
-/

namespace Laurels

/-- A pool that was opened: the address of the database, and the least and greatest number of connections. -/
structure Opening where
  url : String
  least : Int
  most : Int
deriving DecidableEq, Repr

/-- The pool, as far as it is set up and used. -/
structure Pool where
  /-- The address of the database, if one is set. -/
  url : Option String
  least : Int
  most : Int
  isOpen : Bool
  /-- The openings so far, in order. -/
  openings : List Opening
deriving DecidableEq, Repr

/-- Why the pool is of no use. -/
inductive PoolFault where
  | addressMissing
  | closed
deriving DecidableEq, Repr

/-- The wording of a fault. -/
def PoolFault.message : PoolFault → String
  | .addressMissing => "DATABASE_URL is not set. Check .env"
  | .closed => "Stats DB pool is not initialized! Call create_pool() first."

namespace Pool

/-- What can be done with the pool. -/
inductive Action where
  | create
  | get
  | close
  /-- Build the award service on the pool. -/
  | setup
  /-- Create the schema through the pool. -/
  | migrate
  /-- Start and stop the server. -/
  | lifespan
deriving DecidableEq, Repr

/-- What an action yields. -/
inductive Yield where
  | nothing
  | pool
  | service
  /-- The names of what was created, in order. -/
  | created (names : List String)
deriving DecidableEq, Repr

/-- A line of the log at its lowest level. -/
def note (text : String) : LogLine := ⟨.info, text⟩

/-- A pool that is set up and closed. -/
def closed (url : Option String) (least most : Int) : Pool := ⟨url, least, most, false, []⟩

/-- Open the pool unless it is open. -/
def create (p : Pool) : Except PoolFault (Pool × List LogLine) :=
  if p.isOpen then .ok (p, [])
  else
    match p.url with
    | none => .error .addressMissing
    | some url =>
      if url.isEmpty then .error .addressMissing
      else
        .ok ({ p with isOpen := true, openings := p.openings ++ [⟨url, p.least, p.most⟩] },
          [note ("✅ Stats DB pool created (" ++ toString p.least ++ "-" ++ toString p.most ++
            " connections)")])

/-- Close the pool if it is open. -/
def close (p : Pool) : Pool × List LogLine :=
  if p.isOpen then ({ p with isOpen := false }, [note "🔒 Stats DB pool closed"]) else (p, [])

/-- The log line after the schema was created. -/
def schemaNote : LogLine := note "✅ Achievement tables created or already exist."

/-- The names of the whole schema. -/
def schemaNames : List String := SchemaItem.all.map SchemaItem.name

/-- What an action does to the pool, yields and logs. -/
def act (p : Pool) : Action → Pool × Except PoolFault Yield × List LogLine
  | .create =>
    match p.create with
    | .ok (q, lines) => (q, .ok .nothing, lines)
    | .error e => (p, .error e, [])
  | .get => (p, if p.isOpen then .ok .pool else .error .closed, [])
  | .close => (p.close.1, .ok .nothing, p.close.2)
  | .setup => (p, if p.isOpen then .ok .service else .error .closed, [])
  | .migrate =>
    if p.isOpen then (p, .ok (.created schemaNames), [schemaNote]) else (p, .error .closed, [])
  | .lifespan =>
    match p.create with
    | .error e => (p, .error e, [])
    | .ok (q, opened) =>
      (q.close.1, .ok (.created schemaNames),
        opened ++ [schemaNote, note "✅ Database connected and schema ensured"] ++ q.close.2 ++
          [note "🛑 API stopped, pool closed."])

end Pool

end Laurels
