import TerrainChess.Main
import TerrainChess.Files.Tree
import TerrainChess.Proofs.MoverSafety
import TerrainChess.Proofs.LegalSets
import TerrainChess.Proofs.Verdict
import TerrainChess.Proofs.Reflection.Match
import TerrainChess.Proofs.Reading.Board
import TerrainChess.Proofs.Reading.Pieces
import TerrainChess.Proofs.Reading.Rejected
import TerrainChess.Proofs.Reading.Erasure
import TerrainChess.Proofs.Material
import TerrainChess.Proofs.Transposition
import TerrainChess.Proofs.Confinement
import TerrainChess.Proofs.Replay
import TerrainChess.Proofs.Attacks
import TerrainChess.Proofs.Sliding
import TerrainChess.Proofs.Encounters
import TerrainChess.Proofs.Facing
import TerrainChess.Proofs.Intrusion
import TerrainChess.Proofs.HostileZone
import TerrainChess.Proofs.CheckFlags
import TerrainChess.Proofs.Interchange
import TerrainChess.Proofs.Reading.MovementFields
import TerrainChess.Proofs.Reading.Placing
import TerrainChess.Proofs.Reading.BlockOrder
import TerrainChess.Proofs.Reading.Names
import TerrainChess.Proofs.Reading.Terrains
import TerrainChess.Proofs.Reading.Ground
import TerrainChess.Proofs.Area
import TerrainChess.Proofs.Offsets
import TerrainChess.Proofs.Reading.Shape
import TerrainChess.Proofs.Reading.Symmetry
import TerrainChess.Proofs.Store
import TerrainChess.Proofs.Walks
