import Strata.Basic
import Strata.CommandLine.Outcome
import Strata.Compression
import Strata.Css.Selector
import Strata.Css.Sheet
import Strata.Css.Token
import Strata.Decimal.Exact
import Strata.Decimal.Form
import Strata.Document
import Strata.Drawing.Command
import Strata.Drawing.Frame
import Strata.Drawing.Painting
import Strata.Fault
import Strata.Graph
import Strata.Json.Reader
import Strata.Json.Value
import Strata.Layout
import Strata.Main
import Strata.Markup.Entity
import Strata.Markup.Name
import Strata.Markup.Piece
import Strata.Markup.Prolog
import Strata.Markup.Reader
import Strata.Markup.Tag
import Strata.Picture.Affine
import Strata.Picture.Cascade
import Strata.Picture.Content
import Strata.Picture.Element
import Strata.Picture.Expansion
import Strata.Picture.Length
import Strata.Picture.Marker
import Strata.Picture.Outline
import Strata.Picture.Paint
import Strata.Picture.PathData
import Strata.Picture.Resources
import Strata.Picture.Shape
import Strata.Picture.Surroundings
import Strata.Proofs.Balance
import Strata.Proofs.ByteOrder
import Strata.Proofs.ColorGrammar
import Strata.Proofs.ColorText
import Strata.Proofs.DocumentShape
import Strata.Proofs.EdgeExtent
import Strata.Proofs.EdgeTrim
import Strata.Proofs.Escaping
import Strata.Proofs.ExactFrame
import Strata.Proofs.ExactLayout
import Strata.Proofs.FaultHistory
import Strata.Proofs.FieldResolution
import Strata.Proofs.FileSystemGrowth
import Strata.Proofs.GraphBuild
import Strata.Proofs.GraphGroups
import Strata.Proofs.GraphMeaning
import Strata.Proofs.GraphParts
import Strata.Proofs.Grouping
import Strata.Proofs.JsonOrder
import Strata.Proofs.LabelMarkup
import Strata.Proofs.LabelText
import Strata.Proofs.LayerReading
import Strata.Proofs.LayerRows
import Strata.Proofs.LayoutRange
import Strata.Proofs.Legend
import Strata.Proofs.LegendPlace
import Strata.Proofs.MarkupLegal
import Strata.Proofs.MarkupScan
import Strata.Proofs.MarkupSource
import Strata.Proofs.MarkupTags
import Strata.Proofs.MixedScene
import Strata.Proofs.Painting
import Strata.Proofs.PlotArea
import Strata.Proofs.RealScalar
import Strata.Proofs.RunFiles
import Strata.Proofs.RunOutcome
import Strata.Proofs.RunStages
import Strata.Proofs.SceneParts
import Strata.Proofs.SettingsEntries
import Strata.Proofs.SettingsReading
import Strata.Proofs.SettingsResolution
import Strata.Proofs.SettingsValidity
import Strata.Proofs.SurfaceSize
import Strata.Proofs.SvgArrowheads
import Strata.Proofs.SvgCharacters
import Strata.Proofs.SvgDocument
import Strata.Proofs.SvgMarks
import Strata.Proofs.SvgPieces
import Strata.Proofs.TomlTables
import Strata.Raster.Bitmap
import Strata.Raster.Bitmap.Boxes
import Strata.Raster.Bitmap.Format
import Strata.Raster.Extent
import Strata.Raster.Rasterize
import Strata.Run
import Strata.Scalar
import Strata.Settings.Basic
import Strata.Settings.Reading
import Strata.Settings.Validity
import Strata.Storage.Basic
import Strata.Storage.FileSystem
import Strata.Style
import Strata.Svg.Document
import Strata.Text.DataUrl
import Strata.Text.Quoted
import Strata.Text.Visible
import Strata.Toml.Number
import Strata.Toml.Reader
import Strata.Toml.Text
import Strata.Toml.Value
