import BalancerSync.Topology.Model
import BalancerSync.Files.Tree

/-!
# Snapshot files and the snapshot store

A snapshot source reads a cluster snapshot from a JSON file, afresh on every read. The store
holds the latest published snapshot; publishing replaces it whole.
-/

namespace BalancerSync.Topology

/-- Why a snapshot could not be read. -/
inductive SnapshotError where
  | io (path : String) (error : Files.IoError)
  | decode (path : String) (error : Json.Located)
  deriving Inhabited

/-- The message of a snapshot failure. -/
def SnapshotError.message : SnapshotError → String
  | .io path e => "failed to read snapshot " ++ path ++ ": " ++ e.message
  | .decode path e => "failed to decode snapshot " ++ path ++ ": " ++ e.text

/-- The debug view of a snapshot failure. -/
def SnapshotError.debug : SnapshotError → String
  | .io path e => "Io \x7b path: " ++ Text.quoted path ++ ", source: " ++ e.debug ++ " \x7d"
  | .decode path e => "Decode \x7b path: " ++ Text.quoted path ++ ", source: " ++ e.debug ++ " \x7d"

/-- The kind of a snapshot failure: `Io` or `Decode`. -/
def SnapshotError.kind : SnapshotError → String
  | .io _ _ => "Io"
  | .decode _ _ => "Decode"

/-- Reads and decodes the snapshot file at a path. -/
def loadSnapshot (files : Files.Tree) (path : String) : Except SnapshotError Cluster :=
  match files.read path with
  | .error e => .error (.io path e)
  | .ok text =>
    match Cluster.decodeDocument text with
    | .ok c => .ok c
    | .error e => .error (.decode path e)

/-- The latest snapshot, replaced whole on every publication. -/
structure Store where
  current : Cluster
  deriving Inhabited

/-- A store holding an initial snapshot, the empty cluster by default. -/
def Store.new (initial : Cluster := Cluster.empty) : Store := ⟨initial⟩

/-- Publishes a snapshot, replacing the current one. -/
def Store.publish (_s : Store) (c : Cluster) : Store := ⟨c⟩

/-- The latest snapshot. -/
def Store.load (s : Store) : Cluster := s.current

@[simp] theorem Store.load_publish (s : Store) (c : Cluster) : (s.publish c).load = c := rfl

end BalancerSync.Topology
