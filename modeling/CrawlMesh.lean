import CrawlMesh.Json.Look
import CrawlMesh.Main
import CrawlMesh.Mesh.Frame
import CrawlMesh.Proofs.Crawl.Depth
import CrawlMesh.Proofs.Crawl.Ledger
import CrawlMesh.Proofs.Crawl.Policy
import CrawlMesh.Proofs.Mesh.Replies
import CrawlMesh.Proofs.Pool.Turns
import CrawlMesh.Proofs.Url.Reading
import CrawlMesh.Proofs.Storage.Places
import CrawlMesh.Proofs.Mesh.Handing
import CrawlMesh.Proofs.Crawl.Registry
import CrawlMesh.Site
import CrawlMesh.Proofs.Crawl.Acceptance
import CrawlMesh.Proofs.Mesh.Delivery
import CrawlMesh.Proofs.Mesh.Histories
import CrawlMesh.Proofs.Mesh.Heartbeats
import CrawlMesh.Proofs.Mesh.Joining
import CrawlMesh.Proofs.Mesh.Errors
import CrawlMesh.Proofs.Mesh.Frames
import CrawlMesh.Proofs.Crawl.Succession
import CrawlMesh.Proofs.Crawl.Idle
import CrawlMesh.Proofs.Mesh.Starting
import CrawlMesh.Proofs.Module.Identifiers
import CrawlMesh.Proofs.Module.Shelves
import CrawlMesh.Proofs.Pool.Bounds
import CrawlMesh.Proofs.Mesh.Streams
import CrawlMesh.Proofs.Module.Rounds
import CrawlMesh.Proofs.Mesh.Assigning
import CrawlMesh.Proofs.Module.Choosing
import CrawlMesh.Proofs.Pipelines
import CrawlMesh.Proofs.Analyzers
import CrawlMesh.Proofs.Rule.Concerns
import CrawlMesh.Proofs.Cookies
import CrawlMesh.Proofs.Module.Downloads
import CrawlMesh.Proofs.Crawl.Outlets
import CrawlMesh.Proofs.Statistics
